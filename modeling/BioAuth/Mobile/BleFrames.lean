import BioAuth.Mobile.BleFrameCodec

namespace BioAuth.Mobile
open BioAuth
open BioAuth.Reassembly (Answer Cut Pending Piece Plan completed run steps)
open BioAuth.Session (IoError)
open BioAuth.Session.Framing (maxFrame)
open BioAuth.Agent (BleFrameDecoder BleFrameEncoder)
open BioAuth.Agent.BleFraming (headerBytes maxChunks maxPartialFrames slices)

section Slices
variable {frame : Bytes} {size : Nat}

theorem slices_length (frame : Bytes) (size : Nat) : (slices frame size).length = (frame.length + size - 1) / size := by
  rw [slices, List.length_map, List.length_range]

theorem slices_flatten (positive : 0 < size) : (slices frame size).flatten = frame := by
  have front (n : Nat) : ((List.range n).map fun i => (frame.drop (i * size)).take size).flatten = frame.take (n * size) := by
    induction n with
    | zero => simp
    | succ n ih => rw [List.range_succ, List.map_append, List.flatten_append, ih, Nat.succ_mul, List.take_add]; simp
  have covers : frame.length ≤ (frame.length + size - 1) / size * size := by
    have division := Nat.div_add_mod (frame.length + size - 1) size
    have rest := Nat.mod_lt (frame.length + size - 1) positive
    rw [Nat.mul_comm] at division
    omega
  rw [slices, front, List.take_of_length_le covers]

theorem slices_ne_nil (positive : 0 < size) (some : frame ≠ []) : slices frame size ≠ [] := by
  intro none
  have whole : (slices frame size).flatten = frame := slices_flatten positive
  rw [none] at whole
  exact some whole.symm

/-- Every slice begins inside the frame. -/
theorem slices_inside (positive : 0 < size) {i : Nat} (below : i < (slices frame size).length) :
    i * size < frame.length := by
  rw [slices_length] at below
  have whole := Nat.mul_le_mul_right size (Nat.succ_le_of_lt below)
  have division := Nat.div_mul_le_self (frame.length + size - 1) size
  rw [Nat.succ_mul] at whole
  omega

theorem slice_ne_nil (positive : 0 < size) {slice : Bytes} (member : slice ∈ slices frame size) : slice ≠ [] := by
  obtain ⟨i, below, rfl⟩ := List.mem_map.mp member
  have inside : i * size < frame.length := slices_inside positive (by rwa [slices_length, ← List.mem_range])
  rw [← List.length_pos_iff, List.length_take, List.length_drop]
  omega

end Slices

/-- A piece as the chunk it is sent in. -/
def spellPiece (piece : Piece Nat UInt8) : Bytes :=
  BigEndian.encode 2 piece.key ++ BigEndian.encode 2 piece.index ++ BigEndian.encode 2 piece.total ++ piece.data

theorem parseChunk_wire {piece : Piece Nat UInt8} (key : piece.key < 2 ^ 16) (index : piece.index < piece.total)
    (total : piece.total ≤ maxChunks) (data : piece.data ≠ []) : parseChunk (spellPiece piece) = some piece := by
  have bound : maxChunks < 256 ^ 2 := by decide
  have two (value : Nat) : (BigEndian.encode 2 value).length = 2 := BigEndian.encode_length 2 value
  have back {value : Nat} (fits : value < 256 ^ 2) : BigEndian.decode (BigEndian.encode 2 value) = value :=
    BigEndian.decode_encode_of_lt fits
  have first : (spellPiece piece).take 2 = BigEndian.encode 2 piece.key := by
    rw [spellPiece, List.append_assoc, List.append_assoc, List.take_left' (two _)]
  have second : ((spellPiece piece).drop 2).take 2 = BigEndian.encode 2 piece.index := by
    rw [spellPiece, List.append_assoc, List.append_assoc, List.drop_left' (two _), List.take_left' (two _)]
  have front : (BigEndian.encode 2 piece.key ++ BigEndian.encode 2 piece.index).length = 4 := by
    rw [List.length_append, two, two]
  have third : ((spellPiece piece).drop 4).take 2 = BigEndian.encode 2 piece.total := by
    rw [spellPiece, List.append_assoc, List.drop_left' front, List.take_left' (two _)]
  have head : (BigEndian.encode 2 piece.key ++ BigEndian.encode 2 piece.index ++
      BigEndian.encode 2 piece.total).length = headerBytes := by
    rw [List.length_append, front, two]
    rfl
  have rest : (spellPiece piece).drop headerBytes = piece.data := by rw [spellPiece, List.drop_left' head]
  have long : headerBytes < (spellPiece piece).length := by
    have some := List.length_pos_iff.mpr data
    rw [spellPiece, List.length_append, head]
    omega
  rw [parseChunk, second, third, first, rest, back (by omega), back (by omega), back (by omega)]
  exact if_pos ⟨long, by omega⟩

/-- A frame in chunks of this many octets. -/
structure Framed (frameId : Nat) (frame : Bytes) (size : Nat) (chunks : List Bytes) : Prop where
  id : frameId < 2 ^ 16
  length : frame ≠ [] ∧ frame.length ≤ maxFrame
  positive : 0 < size
  total : (slices frame size).length ≤ maxChunks
  chunks : chunks = (Cut.mk frameId (slices frame size)).pieces.map spellPiece

theorem desktop_framed {frame : Bytes} {attPayloadBytes : Nat} {encoder next : BleFrameEncoder} {chunks : List Bytes}
    (run : BleFrameEncoder.encode frame attPayloadBytes encoder = (.ok chunks, next)) :
    Framed encoder.nextFrameId.toNat frame (attPayloadBytes - headerBytes) chunks := by
  unfold BleFrameEncoder.encode at run
  simp only [↓Fallible.require_bind_eq_ok, Fallible.bind_eq_ok, Fallible.pure_eq_ok] at run
  obtain ⟨proper, _, some, few, _, _, got, _, _, set, rfl, _⟩ := run
  cases got
  rw [not_or, Nat.not_lt] at proper
  refine ⟨encoder.nextFrameId.toNat_lt, proper, Nat.pos_of_ne_zero some, by rwa [slices_length], ?_⟩
  refine List.mapIdx_eq_iff.mpr fun i => ?_
  simp [Cut.pieces, Cut.slots, Cut.piece, spellPiece, slices_length, Option.map_map, Function.comp_def]

section Phone
variable {frame : Bytes} {dataBytes : Int64}

/-- Neither the frame nor a chunk is so long that the number of chunks wraps. -/
def Spans (frame : Bytes) (dataBytes : Int64) : Prop := (frame.length : Int) + dataBytes.toInt ≤ 2 ^ 63

instance : Decidable (Spans frame dataBytes) := inferInstanceAs (Decidable (_ ≤ _))

theorem sum_toInt (short : frame.length ≤ maxFrame) (positive : 1 ≤ dataBytes.toInt) :
    (Int64.ofNat frame.length + dataBytes - 1).toInt =
      if Spans frame dataBytes then (frame.length : Int) + dataBytes.toInt - 1
      else (frame.length : Int) + dataBytes.toInt - 1 - 2 ^ 64 := by
  have top := dataBytes.toInt_lt
  unfold maxFrame at short
  unfold Spans
  rw [Int64.toInt_sub, Int64.toInt_add, Int64.toInt_ofNat_of_lt (by omega), show (1 : Int64).toInt = 1 from rfl,
    Int.bmod_def, Int.bmod_def]
  split_ifs <;> omega

/-- The chunks the phone's loop goes through: where the sum wraps there is none. -/
theorem phone_total (short : frame.length ≤ maxFrame) (positive : 1 ≤ dataBytes.toInt) :
    ((Int64.ofNat frame.length + dataBytes - 1) / dataBytes).toNatClampNeg =
      if Spans frame dataBytes then (frame.length + dataBytes.toNatClampNeg - 1) / dataBytes.toNatClampNeg else 0 := by
  have other : dataBytes ≠ -1 := by
    rintro rfl
    revert positive
    decide
  have room : (dataBytes.toNatClampNeg : Int) = dataBytes.toInt := Int.toNat_of_nonneg (by omega)
  have top := dataBytes.toInt_lt
  unfold maxFrame at short
  rw [Int64.toNatClampNeg, Int64.toInt_div_of_ne_right _ _ other, sum_toInt short positive]
  split
  · have count : (frame.length : Int) + dataBytes.toInt - 1 = ((frame.length + dataBytes.toNatClampNeg - 1 : Nat) : Int) := by
      omega
    rw [count, ← room, ← Int.ofNat_tdiv, Int.toNat_natCast]
  · have turned := Int.neg_tdiv (2 ^ 64 - ((frame.length : Int) + dataBytes.toInt - 1)) dataBytes.toInt
    have quotient : 0 ≤ (2 ^ 64 - ((frame.length : Int) + dataBytes.toInt - 1)).tdiv dataBytes.toInt :=
      Int.tdiv_nonneg (by omega) (by omega)
    rw [Int.neg_sub] at turned
    exact Int.toNat_of_nonpos (by omega)

theorem chunkAt_eq (short : frame.length ≤ maxFrame) (positive : 1 ≤ dataBytes.toInt) (spans : Spans frame dataBytes)
    (frameId total : Int64) {i : Nat} (inside : i * dataBytes.toNatClampNeg < frame.length) :
    BleFrameCodec.chunkAt frame dataBytes frameId total i =
      .ok (spellPiece ⟨frameId.toNatClampNeg, i, total.toNatClampNeg,
        (frame.drop (i * dataBytes.toNatClampNeg)).take dataBytes.toNatClampNeg⟩) := by
  have room : (dataBytes.toNatClampNeg : Int) = dataBytes.toInt := Int.toNat_of_nonneg (by omega)
  have few : i ≤ i * dataBytes.toNatClampNeg := Nat.le_mul_of_pos_right i (by omega)
  unfold maxFrame at short
  unfold Spans at spans
  have start : (Int64.ofNat i * dataBytes).toInt = (i * dataBytes.toNatClampNeg : Nat) := by
    rw [Int64.toInt_mul, Int64.toInt_ofNat_of_lt (by omega), ← room, ← Int.natCast_mul,
      Int.bmod_eq_of_le (by omega) (by omega)]
  have stop : (BleFrameCodec.clamp (Int64.ofNat i * dataBytes + dataBytes) 0 (Int64.ofNat frame.length)).toInt =
      min ((i * dataBytes.toNatClampNeg : Nat) + dataBytes.toInt) frame.length := by
    have after : (Int64.ofNat i * dataBytes + dataBytes).toInt = (i * dataBytes.toNatClampNeg : Nat) + dataBytes.toInt := by
      rw [Int64.toInt_add, start, Int.bmod_eq_of_le (by omega) (by omega)]
    have whole : (Int64.ofNat frame.length).toInt = frame.length := Int64.toInt_ofNat_of_lt (by omega)
    have zero : (0 : Int64).toInt = 0 := rfl
    unfold BleFrameCodec.clamp
    simp only [Int64.lt_iff_toInt_lt, after, whole, zero]
    split_ifs <;> omega
  unfold BleFrameCodec.chunkAt
  dsimp only
  generalize BleFrameCodec.clamp (Int64.ofNat i * dataBytes + dataBytes) 0 (Int64.ofNat frame.length) = last at stop ⊢
  generalize Int64.ofNat i * dataBytes = first at start ⊢
  have part : (last - first).toInt = last.toInt - first.toInt := by
    rw [Int64.toInt_sub, Int.bmod_eq_of_le (by omega) (by omega)]
  have whole : (Int64.ofNat BleFrameCodec.headerBytes + last - first).toInt = 6 + last.toInt - first.toInt := by
    rw [Int64.toInt_sub, Int64.toInt_add, show (Int64.ofNat BleFrameCodec.headerBytes).toInt = 6 from rfl,
      Int.bmod_eq_of_le (n := 6 + last.toInt) (by omega) (by omega), Int.bmod_eq_of_le (by omega) (by omega)]
  have begins : first.toNatClampNeg = i * dataBytes.toNatClampNeg := by
    rw [Int64.toNatClampNeg, start, Int.toNat_natCast]
  have takes : (frame.drop (i * dataBytes.toNatClampNeg)).take (last - first).toNatClampNeg =
      (frame.drop (i * dataBytes.toNatClampNeg)).take dataBytes.toNatClampNeg := by
    rw [List.take_eq_take_iff, List.length_drop, Int64.toNatClampNeg, part]
    omega
  refine except_bind_eq_ok.mpr ⟨(), except_require_eq_ok.mpr ?_, ?_⟩
  · rw [Int64.le_iff_toInt_le, whole, show (0 : Int64).toInt = 0 from rfl]
    omega
  · rw [begins, takes]
    rfl

theorem frameId_lt (next : Int64) : (next &&& 0xffff).toNatClampNeg < 2 ^ 16 := by
  have low : (next &&& 0xffff).toBitVec.toNat < 2 ^ 16 := by
    rw [Int64.toBitVec_and, BitVec.toNat_and]
    exact Nat.lt_of_le_of_lt Nat.and_le_right (by decide)
  have same : (next &&& 0xffff).toInt = (next &&& 0xffff).toBitVec.toNat :=
    BitVec.toInt_eq_toNat_of_lt (by omega)
  rw [Int64.toNatClampNeg, same]
  omega

/-- What the phone sends of a frame it accepts: its chunks, or none at all. -/
theorem phone_framed {attPayloadBytes : Int64} {codec next : BleFrameCodec} {chunks : List Bytes}
    (standard : codec.maxFrameBytes = maxFrame)
    (run : BleFrameCodec.encode frame attPayloadBytes codec = (.ok chunks, next)) :
    if Spans frame (attPayloadBytes - 6) then
      Framed (codec.nextFrameId &&& 0xffff).toNatClampNeg frame (attPayloadBytes - 6).toNatClampNeg chunks
    else chunks = [] := by
  unfold BleFrameCodec.encode at run
  rw [Fallible.bind_run, Fallible.get_run] at run
  simp only [↓Fallible.require_bind_eq_ok, Fallible.bind_eq_ok, Fallible.liftM_eq_ok] at run
  obtain ⟨proper, wide, few, _, _, _, sent, _⟩ := run
  rw [not_or, Nat.not_lt, standard] at proper
  have six : Int64.ofNat BleFrameCodec.headerBytes = 6 := rfl
  rw [six] at wide few sent
  generalize attPayloadBytes - 6 = dataBytes at *
  have positive : 1 ≤ dataBytes.toInt := by
    rw [Int64.lt_iff_toInt_lt, show (1 : Int64).toInt = 1 from rfl] at wide
    omega
  have room : (dataBytes.toNatClampNeg : Int) = dataBytes.toInt := Int.toNat_of_nonneg (by omega)
  have total := phone_total proper.2 positive
  generalize (Int64.ofNat frame.length + dataBytes - 1) / dataBytes = count at *
  split
  · rename_i spans
    rw [if_pos spans, ← slices_length] at total
    have size : 0 < dataBytes.toNatClampNeg := by omega
    have bound : (slices frame dataBytes.toNatClampNeg).length ≤ maxChunks := by
      rw [Int64.lt_iff_toInt_lt, show (Int64.ofNat BleFrameCodec.maxChunks).toInt = 1024 from rfl] at few
      rw [← total, maxChunks, Int64.toNatClampNeg]
      omega
    refine ⟨frameId_lt _, proper, size, bound, ?_⟩
    rw [total, except_mapM_eq_ok fun i below => chunkAt_eq proper.2 positive spans _ count
      (slices_inside size (List.mem_range.mp below)), Except.ok.injEq] at sent
    rw [← sent, total]
    refine List.ext_getElem (by simp [Cut.pieces, Cut.slots]) fun i left right => ?_
    simp [Cut.pieces, Cut.slots, Cut.piece, slices]
  · rename_i wraps
    rw [if_neg wraps] at total
    rw [total] at sent
    exact (Except.ok.inj sent).symm

end Phone

/-- Who cuts a frame into chunks, with its next frame id and how long a chunk may be. -/
inductive Sender
  | desktop (nextFrameId : UInt16) (attPayloadBytes : Nat)
  | phone (nextFrameId attPayloadBytes : Int64)

namespace Sender

def frameId : Sender → Nat
  | desktop nextFrameId _ => nextFrameId.toNat
  | phone nextFrameId _ => (nextFrameId &&& 0xffff).toNatClampNeg

/-- The chunks its encoder makes of a frame. -/
def Encodes (frame : Bytes) (chunks : List Bytes) : Sender → Prop
  | desktop nextFrameId attPayloadBytes =>
    (BleFrameEncoder.encode frame attPayloadBytes ⟨nextFrameId⟩).1 = .ok chunks
  | phone nextFrameId attPayloadBytes =>
    (BleFrameCodec.encode frame attPayloadBytes { BleFrameCodec.initial with nextFrameId }).1 = .ok chunks

/-- The octets of a frame in one chunk. -/
def dataBytes : Sender → Nat
  | desktop _ attPayloadBytes => attPayloadBytes - headerBytes
  | phone _ attPayloadBytes => (attPayloadBytes - 6).toNatClampNeg

/-- The number of chunks does not wrap. -/
def Counts (frame : Bytes) : Sender → Prop
  | desktop _ _ => True
  | phone _ attPayloadBytes => Spans frame (attPayloadBytes - 6)

instance (frame : Bytes) : (sender : Sender) → Decidable (sender.Counts frame)
  | desktop _ _ => inferInstanceAs (Decidable True)
  | phone _ attPayloadBytes => inferInstanceAs (Decidable (Spans frame (attPayloadBytes - 6)))

end Sender

/-- A frame that was sent, in its chunks. -/
structure Sent where
  sender : Sender
  frame : Bytes
  chunks : List Bytes
  encoded : sender.Encodes frame chunks

namespace Sent

def frameId (sent : Sent) : Nat := sent.sender.frameId

def Counts (sent : Sent) : Prop := sent.sender.Counts sent.frame

instance (sent : Sent) : Decidable sent.Counts := inferInstanceAs (Decidable (sent.sender.Counts sent.frame))

theorem framed (sent : Sent) : if sent.Counts then Framed sent.frameId sent.frame sent.sender.dataBytes sent.chunks
    else sent.chunks = [] := by
  obtain ⟨sender, frame, chunks, encoded⟩ := sent
  cases sender with
  | desktop nextFrameId attPayloadBytes => exact desktop_framed (Fallible.run_of_fst encoded)
  | phone nextFrameId attPayloadBytes =>
    have result : (BleFrameCodec.encode frame attPayloadBytes { BleFrameCodec.initial with nextFrameId }).1 = .ok chunks :=
      encoded
    have framed := phone_framed rfl (Fallible.run_of_fst result)
    exact framed

/-- The frame as it is cut. -/
def cut (sent : Sent) : Cut Nat UInt8 :=
  ⟨sent.frameId, if sent.Counts then slices sent.frame sent.sender.dataBytes else []⟩

theorem chunks_eq (sent : Sent) : sent.chunks = sent.cut.pieces.map spellPiece := by
  have framed := sent.framed
  unfold cut
  split at framed
  · rw [if_pos ‹_›]
    exact framed.chunks
  · rw [if_neg ‹_›, framed]
    rfl

theorem parses (sent : Sent) {piece : Piece Nat UInt8} (member : piece ∈ sent.cut.pieces) :
    parseChunk (spellPiece piece) = some piece := by
  obtain ⟨slot, listed, rfl⟩ := List.mem_map.mp member
  have index : slot.1 < sent.cut.parts.length := by
    rw [← List.mem_range, ← Cut.slots_indices]
    exact List.mem_map_of_mem listed
  have data : slot.2 ∈ sent.cut.parts := by
    rw [← Cut.slots_data]
    exact List.mem_map_of_mem listed
  have framed := sent.framed
  unfold cut at index data ⊢
  split at framed
  · rw [if_pos ‹_›] at index data ⊢
    exact parseChunk_wire framed.id index framed.total (slice_ne_nil framed.positive data)
  · rw [if_neg ‹_›] at data
    cases data

theorem cut_message (sent : Sent) (counts : sent.Counts) : sent.cut.message = sent.frame := by
  have framed := sent.framed
  rw [if_pos counts] at framed
  rw [Cut.message, cut, if_pos counts, slices_flatten framed.positive]

theorem cut_parts (sent : Sent) : sent.cut.parts ≠ [] ↔ sent.Counts := by
  have framed := sent.framed
  unfold cut
  split at framed
  · rw [if_pos ‹_›]
    exact iff_of_true (slices_ne_nil framed.positive framed.length.1) ‹_›
  · rw [if_neg ‹_›]
    exact iff_of_false (not_not_intro rfl) ‹_›

theorem cut_fits (sent : Sent) : sent.cut.message.length ≤ maxFrame := by
  by_cases counts : sent.Counts
  · have framed := sent.framed
    rw [if_pos counts] at framed
    rw [sent.cut_message counts]
    exact framed.length.2
  · rw [Cut.message, cut, if_neg counts]
    exact Nat.zero_le _

/-- The frames that arrive. -/
theorem messages (sent : List Sent) : (((sent.map cut).filter fun cut => cut.parts ≠ []).map Cut.message) =
    (sent.filter fun one => one.Counts).map frame := by
  induction sent with
  | nil => rfl
  | cons one rest ih =>
    rw [List.map_cons, List.filter_cons, List.filter_cons]
    simp only [decide_eq_true_eq, one.cut_parts]
    split
    · rw [List.map_cons, List.map_cons, ih, one.cut_message ‹_›]
    · exact ih

end Sent

section Results

/-- What the desktop's decoder answers to each chunk, and what it has pending then. -/
def desktopSteps (stream : List Bytes) : List (Except IoError (Option Bytes)) × BleFrameDecoder :=
  steps BleFrameDecoder.addChunk stream .initial

/-- What the phone's decoder answers to each chunk, and what it has pending then. -/
def phoneSteps (stream : List Bytes) : List (Option Bytes) × BleFrameCodec :=
  steps BleFrameCodec.addChunk stream .initial

/-- The frame a result of the desktop's decoder hands out, if it does. -/
def handedOut (result : Except IoError (Option Bytes)) : Option Bytes := result.toOption.join

theorem handedOut_eq_message {result : Except IoError (Option Bytes)} {answer : Answer UInt8}
    (left : DesktopShows result answer) : handedOut result = answer.message := by
  rcases result with _ | _ | frame <;> cases left <;> rfl

theorem phone_eq_message {phone : Option Bytes} {answer : Answer UInt8} (right : PhoneShows phone answer) :
    phone = answer.message := by
  rcases phone with _ | frame
  · rcases right with rfl | rfl <;> rfl
  · cases right
    rfl

/-- The octets of chunks that are held. -/
def heldBytes (chunks : Table Nat Bytes) : Nat := (chunks.entries.map fun chunk => chunk.2.length).sum

theorem forall₂_map_eq {α β γ : Type} {related : α → β → Prop} {f : α → γ} {g : β → γ}
    (each : ∀ a b, related a b → f a = g b) {as : List α} {bs : List β} (all : List.Forall₂ related as bs) :
    as.map f = bs.map g := by
  induction all with
  | nil => rfl
  | cons first rest ih => rw [List.map_cons, List.map_cons, each _ _ first, ih]

/-- What the desktop's decoder hands out of a stream is what the pieces in it complete. -/
theorem desktop_run (stream : List Bytes) :
    List.Forall₂ DesktopShows (desktopSteps stream).1 (run bleLimits (stream.map parseChunk) .empty).1 ∧
      DesktopHolds (desktopSteps stream).2 (run bleLimits (stream.map parseChunk) .empty).2 :=
  desktop_implements.steps (Reassembly.empty_counts : DesktopHolds .initial .empty) stream

theorem phone_run (stream : List Bytes) :
    List.Forall₂ PhoneShows (phoneSteps stream).1 (run bleLimits (stream.map parseChunk) .empty).1 ∧
      PhoneHolds (phoneSteps stream).2 (run bleLimits (stream.map parseChunk) .empty).2 :=
  phone_implements.steps (⟨Reassembly.empty_counts, rfl⟩ : PhoneHolds .initial .empty) stream

theorem desktop_messages (stream : List Bytes) :
    (desktopSteps stream).1.map handedOut = (run bleLimits (stream.map parseChunk) .empty).1.map Answer.message :=
  forall₂_map_eq (fun _ _ shows_ => handedOut_eq_message shows_) (desktop_run stream).1

theorem phone_messages (stream : List Bytes) :
    (phoneSteps stream).1 = (run bleLimits (stream.map parseChunk) .empty).1.map Answer.message := by
  rw [← forall₂_map_eq (fun _ _ shows_ => phone_eq_message shows_) (phone_run stream).1]
  exact (List.map_id _).symm

theorem forall₂_left {α β : Type} {related : α → β → Prop} {as : List α} {bs : List β} (all : List.Forall₂ related as bs)
    {a : α} (member : a ∈ as) : ∃ b ∈ bs, related a b := by
  induction all with
  | nil => cases member
  | cons first rest ih =>
    rcases List.mem_cons.mp member with rfl | later
    · exact ⟨_, List.mem_cons_self, first⟩
    · obtain ⟨b, held, holds⟩ := ih later
      exact ⟨b, List.mem_cons_of_mem _ held, holds⟩

theorem filterMap_id_map {α β : Type} (f : α → Option β) (l : List α) : (l.map f).filterMap id = l.filterMap f := by
  rw [List.filterMap_map]
  rfl

/-- What both decoders have pending stays within the four longest frames. -/
theorem buffered_le (stream : List Bytes) :
    ((desktopSteps stream).2.partialFrames.entries.map fun entry => heldBytes entry.2.chunks).sum ≤
        maxPartialFrames * maxFrame ∧
      ((phoneSteps stream).2.partialFrames.entries.map fun entry => heldBytes entry.2.chunks).sum ≤
        maxPartialFrames * maxFrame := by
  have bounded := (Reassembly.empty_bounded bleLimits).run (stream.map parseChunk)
  have desktop := (desktop_run stream).2.buffered
  have phone := (phone_run stream).2.counts.buffered
  exact ⟨desktop.trans_le bounded.buffered_le, phone.trans_le bounded.buffered_le⟩

end Results

section Exact
variable {sent : List Sent}

/-- Up to four frames under different ids are messages that can be put together again. -/
theorem sent_plan (few : sent.length ≤ maxPartialFrames) (apart : (sent.map Sent.frameId).Nodup) :
    Plan bleLimits (sent.map Sent.cut) where
  distinct := by
    rw [List.map_map]
    exact apart
  room := by rwa [List.length_map]
  size cut member := by
    obtain ⟨one, _, rfl⟩ := List.mem_map.mp member
    exact one.cut_fits

theorem map_eq_filterMap {α β : Type} {f : α → Option β} {l : List α} (each : ∀ a ∈ l, ∃ b, f a = some b) :
    l.map f = (l.filterMap f).map some := by
  induction l with
  | nil => rfl
  | cons a l ih =>
    rw [List.forall_mem_cons] at each
    obtain ⟨⟨b, first⟩, rest⟩ := each
    rw [List.map_cons, List.filterMap_cons, first, ih rest]
    rfl

/-- The chunks of a stream are the pieces of the frames, in some order. -/
theorem stream_pieces {stream : List Bytes} (order : stream.Perm (sent.flatMap Sent.chunks)) :
    ∃ pieces : List (Piece Nat UInt8), stream.map parseChunk = pieces.map some ∧ pieces.Perm ((sent.map Sent.cut).flatMap Cut.pieces) := by
  have all : sent.flatMap Sent.chunks = ((sent.map Sent.cut).flatMap Cut.pieces).map spellPiece := by
    rw [List.flatMap_map, List.map_flatMap]
    exact List.flatMap_congr fun one _ => one.chunks_eq
  have parses : ∀ piece ∈ (sent.map Sent.cut).flatMap Cut.pieces, parseChunk (spellPiece piece) = some piece := by
    intro piece member
    obtain ⟨cut, listed, held⟩ := List.mem_flatMap.mp member
    obtain ⟨one, _, rfl⟩ := List.mem_map.mp listed
    exact one.parses held
  rw [all] at order
  refine ⟨stream.filterMap parseChunk, map_eq_filterMap fun chunk member => ?_, ?_⟩
  · obtain ⟨piece, listed, rfl⟩ := List.mem_map.mp (order.mem_iff.mp member)
    exact ⟨piece, parses piece listed⟩
  · refine (order.filterMap parseChunk).trans (List.Perm.of_eq ?_)
    rw [List.filterMap_map]
    exact (List.filterMap_congr (g := some) parses).trans List.filterMap_some

/-- Of the frames sent, those arrive whose number of chunks does not wrap, once each, and no chunk is refused. -/
theorem frames_arrive (few : sent.length ≤ maxPartialFrames) (apart : (sent.map Sent.frameId).Nodup)
    {stream : List Bytes} (order : stream.Perm (sent.flatMap Sent.chunks)) :
    (∀ e, .error e ∉ (desktopSteps stream).1) ∧
      ((desktopSteps stream).1.filterMap handedOut).Perm ((sent.filter fun one => one.Counts).map Sent.frame) ∧
      ((phoneSteps stream).1.filterMap id).Perm ((sent.filter fun one => one.Counts).map Sent.frame) := by
  obtain ⟨pieces, parsed, all⟩ := stream_pieces order
  obtain ⟨taken, arrive⟩ := (sent_plan few apart).run all
  rw [Sent.messages, ← parsed] at arrive
  rw [← parsed] at taken
  have desktop := congrArg (List.filterMap id) (desktop_messages stream)
  have phone := congrArg (List.filterMap id) (phone_messages stream)
  rw [filterMap_id_map, filterMap_id_map] at desktop
  rw [filterMap_id_map] at phone
  refine ⟨fun e refused => ?_, by rw [desktop]; exact arrive, by rw [phone]; exact arrive⟩
  obtain ⟨answer, given, refusal⟩ := forall₂_left (desktop_run stream).1 refused
  exact taken (refusal ▸ given)

end Exact

end BioAuth.Mobile
