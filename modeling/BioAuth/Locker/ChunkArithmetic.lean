import BioAuth.Locker.Chunks
import BioAuth.Locker.RecoveryCode
import Mathlib.Data.List.Induction
import Mathlib.Data.List.Nodup

namespace BioAuth.Locker
open BioAuth

section Nonces
variable {header : CoreHeader}

/-- Chunks of different indices have different nonces. -/
theorem chunkNonce_injective {i j : Nat} {first second : Bool} (small : i < 2 ^ 32) (fits : j < 2 ^ 32)
    (same : header.chunkNonce i first = header.chunkNonce j second) : i = j := by
  have octets := congrArg Subtype.val same
  simp only [CoreHeader.chunkNonce, List.append_assoc, List.append_cancel_left_eq] at octets
  have digits := List.append_inj_left octets (by rw [BigEndian.encode_length, BigEndian.encode_length])
  exact BigEndian.encode_injective small fits digits

/-- The metadata block shares its nonce with no chunk: their last octets differ. -/
theorem chunkNonce_ne_metadataNonce {i : Nat} {last : Bool} : header.chunkNonce i last ≠ header.metadataNonce := by
  intro same
  have octets := congrArg Subtype.val same
  have ends := congrArg List.getLast? octets
  simp only [CoreHeader.chunkNonce, CoreHeader.metadataNonce, List.getLast?_append, List.getLast?_singleton,
    Option.some_or, Option.some.injEq] at ends
  cases last <;> cases ends

end Nonces

/-- A chunk as the loops go through it. -/
structure Chunk where
  index : Nat
  length : Nat
  last : Bool
  deriving DecidableEq

namespace CoreHeader

/-- The next `todo` chunks. -/
def chunksFrom (header : CoreHeader) : (todo index remaining : Nat) → List Chunk
  | 0, _, _ => []
  | todo + 1, index, remaining =>
    ⟨index, min remaining header.chunkSize.toNat, index + 1 == header.chunkCount⟩ ::
      header.chunksFrom todo (index + 1) (remaining - min remaining header.chunkSize.toNat)

/-- The chunks of a container. -/
def chunks (header : CoreHeader) : List Chunk := header.chunksFrom header.chunkCount 0 header.plaintextLen.toNat

end CoreHeader

section Loops
variable [Crypto] {σ : Type}

/-- One turn of the encrypting loop. -/
def encryptChunk (write : Bytes → Fallible σ LockerError Unit) (cipher : ContainerCipher) (reader : Stream)
    (chunk : Chunk) : Fallible σ LockerError Stream := do
  let (buffer, reader) ← Fallible.within ((Stream.readExact chunk.length).mapError fun _ => .inputChanged) reader
  write (cipher.sealChunk chunk.index chunk.last buffer)
  return reader

/-- One turn of the decrypting loop. -/
def decryptChunk (write : Bytes → Fallible σ LockerError Unit) (cipher : ContainerCipher) (reader : Stream)
    (chunk : Chunk) : Fallible σ LockerError Stream := do
  let (buffer, reader) ← Fallible.within ((Stream.readExact (chunk.length + tagLen)).mapError shortRead) reader
  let buffer ← cipher.openChunk chunk.index chunk.last buffer
  write buffer
  return reader

/-- The encrypting loop takes a turn for each chunk. -/
theorem encryptEach_eq (write : Bytes → Fallible σ LockerError Unit) (header : CoreHeader) (cipher : ContainerCipher)
    (todo index remaining : Nat) (reader : Stream) :
    encryptEach write header cipher todo index remaining reader =
      (header.chunksFrom todo index remaining).foldlM (encryptChunk write cipher) reader := by
  induction todo generalizing index remaining reader with
  | zero => rfl
  | succ todo ih =>
    rw [CoreHeader.chunksFrom, List.foldlM_cons, encryptEach, encryptChunk, Fallible.bind_assoc]
    refine congrArg _ (funext fun read => ?_)
    rw [Fallible.bind_assoc]
    exact congrArg (write _ >>= ·) (funext fun _ => ih _ _ _)

/-- So does the decrypting loop. -/
theorem decryptEach_eq (write : Bytes → Fallible σ LockerError Unit) (header : CoreHeader) (cipher : ContainerCipher)
    (todo index remaining : Nat) (reader : Stream) :
    decryptEach write header cipher todo index remaining reader =
      (header.chunksFrom todo index remaining).foldlM (decryptChunk write cipher) reader := by
  induction todo generalizing index remaining reader with
  | zero => rfl
  | succ todo ih =>
    rw [CoreHeader.chunksFrom, List.foldlM_cons, decryptEach, decryptChunk, Fallible.bind_assoc]
    refine congrArg _ (funext fun read => ?_)
    rw [Fallible.bind_assoc]
    refine congrArg (_ >>= ·) (funext fun buffer => ?_)
    rw [Fallible.bind_assoc]
    exact congrArg (write buffer >>= ·) (funext fun _ => ih _ _ _)

end Loops

namespace CoreHeader
variable {header : CoreHeader}

theorem chunksFrom_indices (todo index remaining : Nat) :
    (header.chunksFrom todo index remaining).map Chunk.index = List.range' index todo := by
  induction todo generalizing index remaining with
  | zero => rfl
  | succ todo ih => rw [chunksFrom, List.map_cons, ih, List.range'_succ]

/-- Each chunk says whether it is the last one. -/
theorem chunksFrom_last {todo index remaining : Nat} {chunk : Chunk}
    (member : chunk ∈ header.chunksFrom todo index remaining) :
    chunk.last = (chunk.index + 1 == header.chunkCount) := by
  induction todo generalizing index remaining with
  | zero => cases member
  | succ todo ih =>
    rcases List.mem_cons.mp member with rfl | later
    · rfl
    · exact ih later

/-- The chunks take up what is left. -/
theorem chunksFrom_total {todo index remaining : Nat} (enough : remaining ≤ todo * header.chunkSize.toNat) :
    ((header.chunksFrom todo index remaining).map Chunk.length).sum = remaining := by
  induction todo generalizing index remaining with
  | zero =>
    rw [Nat.zero_mul] at enough
    exact (Nat.le_zero.mp enough).symm
  | succ todo ih =>
    rw [Nat.succ_mul] at enough
    rw [chunksFrom, List.map_cons, List.sum_cons, ih (by omega)]
    dsimp only
    omega

/-- Where the chunks before the last one do not take up everything, each of them takes something. -/
theorem chunksFrom_filled {todo index remaining : Nat} (most : (todo - 1) * header.chunkSize.toNat < remaining)
    (positive : 0 < header.chunkSize.toNat) {chunk : Chunk} (member : chunk ∈ header.chunksFrom todo index remaining) :
    1 ≤ chunk.length ∧ chunk.length ≤ header.chunkSize.toNat := by
  induction todo generalizing index remaining with
  | zero => cases member
  | succ todo ih =>
    rcases List.mem_cons.mp member with rfl | later
    · have left : 0 < remaining := (Nat.zero_le _).trans_lt most
      exact ⟨Nat.le_min.mpr ⟨left, positive⟩, Nat.min_le_right _ _⟩
    · cases todo with
      | zero => cases later
      | succ todo =>
        rw [Nat.add_sub_cancel, Nat.succ_mul] at most
        exact ih (by rw [Nat.add_sub_cancel]; omega) later

/-- The chunks are as many as they have to be. -/
theorem chunkCount_least (valid : header.validate = .ok ()) (some : header.plaintextLen ≠ 0) :
    (header.chunkCount - 1) * header.chunkSize.toNat < header.plaintextLen.toNat := by
  have positive := chunkSize_pos valid
  have length : 0 < header.plaintextLen.toNat := by
    rw [Nat.pos_iff_ne_zero]
    exact fun zero => some (UInt64.toNat_inj.mp zero)
  unfold chunkCount
  dsimp only
  rw [if_neg some]
  have below := Nat.div_mul_le_self (header.plaintextLen.toNat + header.chunkSize.toNat - 1) header.chunkSize.toNat
  rw [Nat.sub_mul, Nat.one_mul]
  omega

theorem chunkCount_pos (header : CoreHeader) (positive : 0 < header.chunkSize.toNat) : 0 < header.chunkCount := by
  unfold chunkCount
  dsimp only
  split
  · exact Nat.one_pos
  · rename_i some
    have length : 0 < header.plaintextLen.toNat := by
      rw [Nat.pos_iff_ne_zero]
      exact fun zero => some (UInt64.toNat_inj.mp zero)
    exact Nat.div_pos (by omega) positive

end CoreHeader

/-- The key a nonce is used with, by what it is derived from. -/
structure Derivation where
  ikm : Block 32
  salt : Bytes
  info : Bytes

/-- A nonce and the key it is used with. -/
structure NonceUse where
  derivation : Derivation
  nonce : Block nonceLen

/-- The nonces used under keys that are derived from a data key. -/
def nonceUses (header : CoreHeader) (dek : Dek) : List NonceUse :=
  (header.chunks.map fun chunk =>
    ⟨⟨dek, header.contentSalt.val, contentInfo⟩, header.chunkNonce chunk.index chunk.last⟩) ++
  [⟨⟨dek, header.contentSalt.val, metadataInfo⟩, header.metadataNonce⟩]

/-- How a header divides its plaintext. -/
structure CoreHeader.Divides (header : CoreHeader) : Prop where
  /-- The count is a quotient rounded up, and never too large for its width. -/
  count : header.chunkCount = (if header.plaintextLen = 0 then 1 else
    header.plaintextLen.toNat / header.chunkSize.toNat +
      if header.plaintextLen.toNat % header.chunkSize.toNat = 0 then 0 else 1) ∧ header.chunkCount < 2 ^ 32
  indices : header.chunks.map Chunk.index = List.range header.chunkCount
  empty : header.plaintextLen = 0 → header.chunks = [⟨0, 0, true⟩]
  filled : header.plaintextLen ≠ 0 → ∀ chunk ∈ header.chunks,
    1 ≤ chunk.length ∧ chunk.length ≤ header.chunkSize.toNat
  total : (header.chunks.map Chunk.length).sum = header.plaintextLen.toNat
  final : ∃ front chunk, header.chunks = front ++ [chunk] ∧ chunk.last = true ∧ ∀ other ∈ front, other.last = false

/-- The ceiling as the source computes it. -/
theorem add_sub_one_div {length size : Nat} (positive : 0 < size) :
    (length + size - 1) / size = length / size + if length % size = 0 then 0 else 1 := by
  have split := Nat.div_add_mod length size
  have small := Nat.mod_lt length positive
  generalize length / size = quotient, length % size = rest at split small ⊢
  subst split
  rw [Nat.mul_comm size, Nat.add_assoc, Nat.add_sub_assoc (by omega), Nat.mul_comm, Nat.mul_add_div positive]
  split
  · rename_i whole
    rw [whole, Nat.zero_add, Nat.div_eq_of_lt (by omega)]
  · rw [Nat.add_left_cancel_iff, show rest + size - 1 = (rest - 1) + size by omega, Nat.add_div_right _ positive,
      Nat.div_eq_of_lt (by omega)]

namespace CoreHeader
variable {header : CoreHeader}

theorem divides (valid : header.validate = .ok ()) : header.Divides := by
  have positive := chunkSize_pos valid
  have few : header.chunkCount ≤ maxChunkIndex := (validate_eq_ok.mp valid).2.2
  have counted := chunkCount_pos header positive
  refine ⟨⟨?_, few.trans_lt (by decide)⟩, ?_, fun empty => ?_, fun some chunk member => ?_, ?_, ?_⟩
  · unfold chunkCount
    dsimp only
    rw [add_sub_one_div positive]
  · rw [chunks, chunksFrom_indices, List.range_eq_range']
  · have one : header.chunkCount = 1 := if_pos empty
    rw [chunks, one, empty, chunksFrom, chunksFrom, one]
    rfl
  · exact chunksFrom_filled (chunkCount_least valid some) positive member
  · exact chunksFrom_total (plaintextLen_le valid)
  · have indices : header.chunks.map Chunk.index = List.range header.chunkCount := by
      rw [chunks, chunksFrom_indices, List.range_eq_range']
    have lasts (chunk : Chunk) (member : chunk ∈ header.chunks) :
        chunk.last = (chunk.index + 1 == header.chunkCount) := chunksFrom_last member
    obtain ⟨before, same⟩ := Nat.exists_eq_add_of_le' counted
    rcases List.eq_nil_or_concat' header.chunks with none | ⟨front, chunk, split⟩
    · rw [none, same, List.range_succ] at indices
      simp at indices
    · rw [split, same, List.range_succ, List.map_append, List.map_singleton] at indices
      obtain ⟨earlier, at_end⟩ := List.append_inj' indices rfl
      have place : chunk.index = before := (List.cons_eq_cons.mp at_end).1
      refine ⟨front, chunk, split, ?_, fun other member => ?_⟩
      · rw [lasts chunk (split ▸ List.mem_append_right _ List.mem_cons_self), place, same]
        exact beq_self_eq_true _
      · have below : other.index < before := by
          rw [← List.mem_range, ← earlier]
          exact List.mem_map_of_mem member
        rw [lasts other (split ▸ List.mem_append_left _ member), same, beq_eq_false_iff_ne]
        omega

/-- No nonce is used twice under keys derived from one data key. -/
theorem nonceUses_nodup (valid : header.validate = .ok ()) (dek : Dek) :
    ((nonceUses header dek).map NonceUse.nonce).Nodup := by
  have few : header.chunkCount ≤ maxChunkIndex := (validate_eq_ok.mp valid).2.2
  have indices := (divides valid).indices
  have small (chunk : Chunk) (member : chunk ∈ header.chunks) : chunk.index < 2 ^ 32 := by
    have inside : chunk.index ∈ List.range header.chunkCount := indices ▸ List.mem_map_of_mem member
    exact ((List.mem_range.mp inside).trans_le few).trans (by decide)
  rw [nonceUses, List.map_append, List.map_map, List.map_singleton, List.nodup_append]
  refine ⟨?_, List.nodup_singleton _, ?_⟩
  · have distinct : (header.chunks.map Chunk.index).Nodup := indices ▸ List.nodup_range
    refine List.Nodup.map_on (fun chunk member other also same => ?_) distinct.of_map
    exact List.inj_on_of_nodup_map distinct member also
      (chunkNonce_injective (small chunk member) (small other also) same)
  · intro nonce member other metadata
    obtain ⟨chunk, _, rfl⟩ := List.mem_map.mp member
    rw [List.mem_singleton.mp metadata]
    exact chunkNonce_ne_metadataNonce

end CoreHeader

section Uses
variable [Crypto]

/-- The key of a nonce. -/
def NonceUse.key (use : NonceUse) : Block 32 := derive use.derivation.ikm.val use.derivation.salt use.derivation.info

omit [Crypto] in
/-- A wrapper is sealed under no key that is derived like one of these. -/
theorem wrapper_apart {header : CoreHeader} {dek : Dek} {use : NonceUse} (member : use ∈ nonceUses header dek)
    (key : RecoveryKey) (salt : Bytes) : use.derivation ≠ ⟨key, salt, recoveryInfo⟩ := by
  have infos : contentInfo ≠ recoveryInfo ∧ metadataInfo ≠ recoveryInfo := by decide +kernel
  intro same
  have info : use.derivation.info = recoveryInfo := congrArg Derivation.info same
  rcases List.mem_append.mp member with chunk | metadata
  · obtain ⟨_, _, rfl⟩ := List.mem_map.mp chunk
    exact infos.1 info
  · rw [List.mem_singleton.mp metadata] at info
    exact infos.2 info

end Uses

/-- A header of two chunks, the second of one octet. -/
def twoChunks : CoreHeader where
  containerVersion := 1
  chunkSize := 4096
  noncePrefix := ⟨List.replicate 7 1, rfl⟩
  contentSalt := ⟨List.replicate 32 2, rfl⟩
  plaintextLen := 4097

end BioAuth.Locker
