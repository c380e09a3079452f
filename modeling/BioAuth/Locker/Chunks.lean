import BioAuth.Lib.Appends
import BioAuth.Locker.Container
import BioAuth.Locker.FormatSpelling

namespace BioAuth.Locker
open BioAuth

namespace Stream

theorem readExact_eq_ok {n : Nat} {s t : Stream} {a : Bytes} :
    readExact n s = (.ok a, t) ↔ a.length = n ∧ s.bytes = a ++ t.bytes ∧ s.ending = t.ending := by
  unfold readExact
  split
  · rename_i enough
    simp only [Prod.mk.injEq, Except.ok.injEq]
    constructor
    · rintro ⟨rfl, rfl⟩
      exact ⟨List.length_take_of_le enough, (List.take_append_drop n s.bytes).symm, rfl⟩
    · rintro ⟨rfl, read, ending⟩
      rw [read, List.take_left, List.drop_left, ending]
      exact ⟨rfl, rfl⟩
  · rename_i short
    simp only [Prod.mk.injEq, reduceCtorEq, false_and, false_iff, not_and]
    rintro rfl read
    rw [read, List.length_append] at short
    omega

theorem readOne_eq_nil {s t : Stream} : readOne s = (.ok [], t) ↔ s = ⟨[], none⟩ ∧ t = s := by
  obtain ⟨bytes, ending⟩ := s
  cases bytes with
  | nil => cases ending <;> simp [readOne, eq_comm]
  | cons byte rest => cases ending <;> simp [readOne]

end Stream

theorem CoreHeader.chunkSize_pos {header : CoreHeader} (valid : header.validate = .ok ()) :
    0 < header.chunkSize.toNat := by
  obtain ⟨_, ⟨⟨lower, _⟩, _⟩, _⟩ := validate_eq_ok.mp valid
  rw [UInt32.le_iff_toNat_le] at lower
  exact lt_of_lt_of_le (by decide) lower

/-- The chunks are enough for the plaintext. -/
theorem CoreHeader.plaintextLen_le {header : CoreHeader} (valid : header.validate = .ok ()) :
    header.plaintextLen.toNat ≤ header.chunkCount * header.chunkSize.toNat := by
  have positive := chunkSize_pos valid
  unfold chunkCount
  dsimp only
  split
  · rename_i empty
    simp [empty]
  · have rounded := Nat.lt_mul_div_succ (header.plaintextLen.toNat + header.chunkSize.toNat - 1) positive
    rw [Nat.mul_add, Nat.mul_one] at rounded
    rw [Nat.mul_comm]
    omega

section Chunks
variable [Crypto] {σ : Type}

/-- The chunks of a text from `index` on, each sealed. -/
def sealEach (cipher : ContainerCipher) (header : CoreHeader) : (todo index : Nat) → Bytes → Bytes
  | 0, _, _ => []
  | todo + 1, index, text =>
    cipher.sealChunk index (index + 1 == header.chunkCount) (text.take header.chunkSize.toNat) ++
      sealEach cipher header todo (index + 1) (text.drop header.chunkSize.toNat)

/-- The body of a container. -/
def sealChunks (cipher : ContainerCipher) (header : CoreHeader) (text : Bytes) : Bytes :=
  sealEach cipher header header.chunkCount 0 text

variable {holds : Bytes → σ → Prop} {fails : LockerError → Prop} {write : Bytes → Fallible σ LockerError Unit}
  {header : CoreHeader} {cipher : ContainerCipher}

/-- The encrypting loop adds the sealed chunks of what it has read. -/
theorem encryptEach_appends (any : ∀ e, fails e)
    (writes : ∀ bytes, (write bytes).Appends holds (fun _ more => more = bytes) fails) :
    ∀ {todo index remaining : Nat} {reader : Stream}, remaining ≤ todo * header.chunkSize.toNat →
      (encryptEach write header cipher todo index remaining reader).Appends holds
        (fun rest more => ∃ text : Bytes, text.length = remaining ∧ reader.bytes = text ++ rest.bytes ∧
          reader.ending = rest.ending ∧ more = sealEach cipher header todo index text) fails := by
  intro todo
  induction todo with
  | zero =>
    intro index remaining reader bound
    refine Fallible.Appends.pure ⟨[], ?_, rfl, rfl, rfl⟩
    simpa using (show remaining = 0 by omega).symm
  | succ todo ih =>
    intro index remaining reader bound
    rw [Nat.succ_mul] at bound
    refine Fallible.Appends.bind (Fallible.Appends.within (fun read more => more = [] ∧
      read.1.length = min remaining header.chunkSize.toNat ∧ reader.bytes = read.1 ++ read.2.bytes ∧
      reader.ending = read.2.ending) ?_ fun e _ _ => any e) ?_
    · intro buffer rest run
      exact ⟨rfl, Stream.readExact_eq_ok.mp (Fallible.mapError_eq_ok.mp run)⟩
    · rintro ⟨buffer, next⟩ _ ⟨rfl, length, read, ending⟩
      refine Fallible.Appends.bind (writes _) ?_
      rintro _ _ rfl
      refine (ih (show remaining - min remaining header.chunkSize.toNat ≤ todo * header.chunkSize.toNat by omega)).mono ?_
      rintro rest more ⟨text, total, after, last, rfl⟩
      dsimp only at length read ending
      refine ⟨buffer ++ text, by rw [List.length_append]; omega, ?_, ending.trans last, ?_⟩
      · rw [read, after, List.append_assoc]
      · rw [List.nil_append, sealEach]
        by_cases short : remaining ≤ header.chunkSize.toNat
        · have none : text = [] := List.length_eq_zero_iff.mp (by omega)
          rw [none, List.append_nil, List.take_of_length_le (by omega), List.drop_of_length_le (by omega)]
        · rw [List.take_left' (by omega), List.drop_left' (by omega)]

/-- A successful encryption has read the whole source, which is as long as the header says, and written
its sealed chunks. -/
theorem encryptChunks_appends (any : ∀ e, fails e)
    (writes : ∀ bytes, (write bytes).Appends holds (fun _ more => more = bytes) fails)
    (valid : header.validate = .ok ()) {reader : Stream} :
    (encryptChunks reader write header cipher).Appends holds
      (fun _ more => reader.bytes.length = header.plaintextLen.toNat ∧ reader.ending = none ∧
        more = sealChunks cipher header reader.bytes) fails := by
  refine Fallible.Appends.bind (encryptEach_appends any writes (CoreHeader.plaintextLen_le valid)) ?_
  rintro rest _ ⟨text, length, read, ending, rfl⟩
  refine Fallible.Appends.bind (Fallible.Appends.within (fun extra more => more = [] ∧
    Stream.readOne rest = (.ok extra.1, extra.2)) ?_ fun e _ _ => any e) ?_
  · intro extra next run
    exact ⟨rfl, Fallible.mapError_eq_ok.mp run⟩
  · rintro ⟨extra, next⟩ _ ⟨rfl, last⟩
    refine Fallible.Appends.require _ ?_ fun _ => any _
    rintro rfl
    obtain ⟨rfl, _⟩ := Stream.readOne_eq_nil.mp last
    rw [List.append_nil] at read
    rw [read]
    exact ⟨length, ending, List.append_nil _⟩

/-- What the chunks of a body open to, from `index` on. -/
inductive Opens (cipher : ContainerCipher) (header : CoreHeader) :
    (todo index remaining : Nat) → (body text : Bytes) → Prop
  | done {index remaining : Nat} : Opens cipher header 0 index remaining [] []
  | chunk {todo index remaining : Nat} {buffer plaintext body text : Bytes}
      (length : buffer.length = min remaining header.chunkSize.toNat + tagLen)
      (opened : cipher.openChunk index (index + 1 == header.chunkCount) buffer = .ok plaintext)
      (rest : Opens cipher header todo (index + 1) (remaining - min remaining header.chunkSize.toNat) body text) :
      Opens cipher header (todo + 1) index remaining (buffer ++ body) (plaintext ++ text)

/-- What was sealed opens to what it was sealed from. -/
theorem Opens.of_seal (correct : Crypto.chacha20Poly1305.Correct tagLen) :
    ∀ {todo index : Nat} {text : Bytes}, text.length ≤ todo * header.chunkSize.toNat →
      Opens cipher header todo index text.length (sealEach cipher header todo index text) text := by
  intro todo
  induction todo with
  | zero =>
    intro index text bound
    obtain rfl : text = [] := List.length_eq_zero_iff.mp (by omega)
    exact Opens.done
  | succ todo ih =>
    intro index text bound
    rw [Nat.succ_mul] at bound
    have chunk : (cipher.sealChunk index (index + 1 == header.chunkCount) (text.take header.chunkSize.toNat)).length =
        min text.length header.chunkSize.toNat + tagLen := by
      rw [ContainerCipher.sealChunk, correct.encrypt_length, List.length_take, Nat.min_comm]
    have opened := ContainerCipher.openChunk_eq_ok.mpr
      (correct.decrypt_encrypt cipher.content (cipher.header.chunkNonce index (index + 1 == header.chunkCount))
        cipher.binding.val (text.take header.chunkSize.toNat))
    have rest := @ih (index + 1) (text.drop header.chunkSize.toNat) (by rw [List.length_drop]; omega)
    rw [List.length_drop] at rest
    have left : text.length - min text.length header.chunkSize.toNat = text.length - header.chunkSize.toNat := by
      omega
    have whole := Opens.chunk chunk opened (by rw [left]; exact rest)
    rwa [List.take_append_drop] at whole

theorem decryptEach_opens (any : ∀ e, fails e)
    (writes : ∀ bytes, (write bytes).Appends holds (fun _ more => more = bytes) fails) :
    ∀ {todo index remaining : Nat} {reader : Stream},
      (decryptEach write header cipher todo index remaining reader).Appends holds
        (fun rest more => ∃ body, reader.bytes = body ++ rest.bytes ∧ reader.ending = rest.ending ∧
          Opens cipher header todo index remaining body more) fails := by
  intro todo
  induction todo with
  | zero =>
    intro index remaining reader
    exact Fallible.Appends.pure ⟨[], rfl, rfl, Opens.done⟩
  | succ todo ih =>
    intro index remaining reader
    refine Fallible.Appends.bind (Fallible.Appends.within (fun read more => more = [] ∧
      read.1.length = min remaining header.chunkSize.toNat + tagLen ∧ reader.bytes = read.1 ++ read.2.bytes ∧
      reader.ending = read.2.ending) ?_ fun e _ _ => any e) ?_
    · intro buffer rest run
      exact ⟨rfl, Stream.readExact_eq_ok.mp (Fallible.mapError_eq_ok.mp run)⟩
    · rintro ⟨buffer, next⟩ _ ⟨rfl, length, read, ending⟩
      dsimp only at length read ending
      refine Fallible.Appends.bind (Fallible.Appends.liftM (fun plaintext more => more = [] ∧
        cipher.openChunk index (index + 1 == header.chunkCount) buffer = .ok plaintext)
        (fun _ opened => ⟨rfl, opened⟩) fun e _ => any e) ?_
      rintro plaintext _ ⟨rfl, opened⟩
      refine Fallible.Appends.bind (writes _) ?_
      rintro _ _ rfl
      refine ih.mono ?_
      rintro rest more ⟨body, after, last, opens⟩
      refine ⟨buffer ++ body, by rw [read, after, List.append_assoc], ending.trans last, ?_⟩
      rw [List.nil_append, List.nil_append]
      exact Opens.chunk length opened opens

/-- A successful decryption has opened everything there was to read, and written what it opened to. -/
theorem decryptChunks_opens (any : ∀ e, fails e)
    (writes : ∀ bytes, (write bytes).Appends holds (fun _ more => more = bytes) fails) {reader : Stream} :
    (decryptChunks reader write header cipher).Appends holds
      (fun _ more => reader.ending = none ∧
        Opens cipher header header.chunkCount 0 header.plaintextLen.toNat reader.bytes more) fails := by
  refine Fallible.Appends.bind (decryptEach_opens any writes) ?_
  rintro rest text ⟨body, read, ending, opens⟩
  refine Fallible.Appends.bind (Fallible.Appends.within (fun extra more => more = [] ∧
    Stream.readOne rest = (.ok extra.1, extra.2)) ?_ fun e _ _ => any e) ?_
  · intro extra next run
    exact ⟨rfl, Fallible.mapError_eq_ok.mp run⟩
  · rintro ⟨extra, next⟩ _ ⟨rfl, last⟩
    refine Fallible.Appends.require _ ?_ fun _ => any _
    rintro rfl
    obtain ⟨rfl, _⟩ := Stream.readOne_eq_nil.mp last
    rw [List.append_nil] at read
    rw [read, List.append_nil, List.append_nil]
    exact ⟨ending, opens⟩

theorem decryptEach_complete
    (writes : ∀ bytes, (write bytes).Appends holds (fun _ more => more = bytes) fails) {todo index remaining : Nat}
    {body text : Bytes} (opens : Opens cipher header todo index remaining body text) (ending : Option IoError) :
    (decryptEach write header cipher todo index remaining ⟨body, ending⟩).Appends holds
      (fun rest more => rest = ⟨[], ending⟩ ∧ more = text) fails := by
  induction opens with
  | done => exact Fallible.Appends.pure ⟨rfl, rfl⟩
  | @chunk todo index remaining buffer plaintext body text length opened rest ih =>
    have reads : Stream.readExact (min remaining header.chunkSize.toNat + tagLen) ⟨buffer ++ body, ending⟩ =
        (.ok buffer, ⟨body, ending⟩) := Stream.readExact_eq_ok.mpr ⟨length, rfl, rfl⟩
    refine Fallible.Appends.bind (Fallible.Appends.within (fun read more => more = [] ∧
      read = (buffer, ⟨body, ending⟩)) ?_ ?_) ?_
    · intro a t run
      rw [Fallible.mapError_eq_ok.mpr reads] at run
      cases run
      exact ⟨rfl, rfl⟩
    · intro e t run
      rw [Fallible.mapError_eq_ok.mpr reads] at run
      cases run
    · rintro _ _ ⟨rfl, rfl⟩
      refine Fallible.Appends.bind (Fallible.Appends.liftM (fun a more => more = [] ∧ plaintext = a)
        (fun _ same => ⟨rfl, Except.ok.inj (opened.symm.trans same)⟩) ?_) ?_
      · intro e same
        rw [opened] at same
        cases same
      · rintro _ _ ⟨rfl, rfl⟩
        refine Fallible.Appends.bind (writes _) ?_
        rintro _ _ rfl
        refine ih.mono ?_
        rintro rest more ⟨rfl, rfl⟩
        exact ⟨rfl, rfl⟩

/-- Decrypting a body that opens fails only where writing fails. -/
theorem decryptChunks_complete
    (writes : ∀ bytes, (write bytes).Appends holds (fun _ more => more = bytes) fails) {body text : Bytes}
    (opens : Opens cipher header header.chunkCount 0 header.plaintextLen.toNat body text) :
    (decryptChunks ⟨body, none⟩ write header cipher).Appends holds (fun _ more => more = text) fails := by
  refine Fallible.Appends.bind (decryptEach_complete writes opens none) ?_
  rintro _ _ ⟨rfl, rfl⟩
  refine Fallible.Appends.bind (Fallible.Appends.within (fun extra more => more = [] ∧
    extra.1 = []) ?_ ?_) ?_
  · intro extra next run
    cases run
    exact ⟨rfl, rfl⟩
  · intro e next run
    cases run
  · rintro ⟨extra, next⟩ _ ⟨rfl, none⟩
    exact Fallible.Appends.require _ (fun _ => by simp) fun refused => absurd none refused

theorem decryptChunks_keeps {γ : Type} {view : σ → γ} (writes : ∀ bytes, (write bytes).Keeps view) (reader : Stream) :
    (decryptChunks reader write header cipher).Keeps view := by
  have each : ∀ {todo index remaining : Nat} {reader : Stream},
      (decryptEach write header cipher todo index remaining reader).Keeps view := by
    intro todo
    induction todo with
    | zero =>
      intro index remaining reader
      exact Fallible.Keeps.pure _
    | succ todo ih =>
      intro index remaining reader
      exact (Fallible.Keeps.within _ _).bind fun _ => (Fallible.Keeps.liftM _).bind fun _ => (writes _).bind fun _ => ih
  exact each.bind fun _ => Fallible.Keeps.bind (Fallible.Keeps.within _ _) fun _ => Fallible.Keeps.require _ _

end Chunks

end BioAuth.Locker
