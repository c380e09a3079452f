import BioAuth.Agent.BleFraming
import BioAuth.Lib.BigEndian
import BioAuth.Lib.Reassembly
import BioAuth.Mobile.Dart

namespace BioAuth.Mobile
open BioAuth

/-- A frame that is not complete. -/
structure PartialFrame where
  total : Nat
  chunks : Table Nat Bytes
  bytes : Nat

structure BleFrameCodec where
  maxFrameBytes : Nat
  nextFrameId : Int64
  partialFrames : Table Nat PartialFrame

namespace BleFrameCodec

def headerBytes : Nat := 6
def maxChunks : Nat := 1024
def maxPartialFrames : Nat := 4

/-- `BleFrameCodec()`. -/
def initial : BleFrameCodec := ⟨8192, 0, .empty⟩

/-- `num.clamp`. -/
def clamp (value lower upper : Int64) : Int64 :=
  if value < lower then lower else if upper < value then upper else value

/-- The chunk at an index. -/
def chunkAt (frame : Bytes) (dataBytes frameId total : Int64) (index : Nat) : Except Thrown Bytes := do
  let start := Int64.ofNat index * dataBytes
  let stop := clamp (start + dataBytes) 0 (Int64.ofNat frame.length)
  require (0 ≤ Int64.ofNat headerBytes + stop - start) .rangeError
  return BigEndian.encode 2 frameId.toNatClampNeg ++ BigEndian.encode 2 index ++
    BigEndian.encode 2 total.toNatClampNeg ++ (frame.drop start.toNatClampNeg).take (stop - start).toNatClampNeg

/-- All that the generator yields when it is gone through once. -/
def encode (frame : Bytes) (attPayloadBytes : Int64) : Fallible BleFrameCodec Thrown (List Bytes) := do
  let codec ← get
  require (¬(frame = [] ∨ codec.maxFrameBytes < frame.length)) (formatException "invalid BLE frame length")
  let dataBytes := attPayloadBytes - Int64.ofNat headerBytes
  require (¬dataBytes < 1) (formatException "MTU BLE insuficiente")
  let total := (Int64.ofNat frame.length + dataBytes - 1) / dataBytes
  require (¬Int64.ofNat maxChunks < total) (formatException "Frame BLE muito fragmentado")
  let frameId := codec.nextFrameId &&& 0xffff
  set { codec with nextFrameId := codec.nextFrameId + 1 }
  let chunks ← ((List.range total.toNatClampNeg).mapM (chunkAt frame dataBytes frameId total) : Except Thrown (List Bytes))
  return chunks

def addChunk (chunk : Bytes) (codec : BleFrameCodec) : Option Bytes × BleFrameCodec :=
  if chunk.length ≤ headerBytes then (none, codec)
  else
    let frameId := BigEndian.decode (chunk.take 2)
    let index := BigEndian.decode ((chunk.drop 2).take 2)
    let total := BigEndian.decode ((chunk.drop 4).take 2)
    if total < 1 ∨ maxChunks < total ∨ total ≤ index then (none, codec)
    -- Refused, not evicted.
    else if codec.partialFrames.get? frameId = none ∧ maxPartialFrames ≤ codec.partialFrames.entries.length then
      (none, codec)
    else
      let frame := (codec.partialFrames.get? frameId).getD ⟨total, .empty, 0⟩
      let without := { codec with partialFrames := codec.partialFrames.remove frameId }
      if frame.total ≠ total ∨ frame.chunks.get? index ≠ none then (none, without)
      else
        let frame := { frame with
          chunks := frame.chunks.insert index (chunk.drop headerBytes)
          bytes := frame.bytes + (chunk.length - headerBytes) }
        if codec.maxFrameBytes < frame.bytes then (none, without)
        else if frame.chunks.entries.length ≠ total then
          (none, { codec with partialFrames := codec.partialFrames.insert frameId frame })
        else
          -- The parts fill the new list, which is as long as they are together.
          match (List.range total).mapM frame.chunks.get? with
          | some parts => (some parts.flatten, without)
          | none => (none, without)

end BleFrameCodec

end BioAuth.Mobile

namespace BioAuth.Mobile
open BioAuth
open BioAuth.Reassembly (Answer Counts Cut Implements Limits Pending Piece Plan)
open BioAuth.Session (IoError)
open BioAuth.Session.Framing (maxFrame)
open BioAuth.Agent (BleFrameDecoder BleFrameEncoder)
open BioAuth.Agent.BleFraming (headerBytes maxChunks maxPartialFrames slices)

/-- The bounds both decoders keep. -/
def bleLimits : Limits := ⟨maxPartialFrames, maxFrame⟩

/-- A chunk whose header either decoder accepts. -/
def parseChunk (chunk : Bytes) : Option (Piece Nat UInt8) :=
  let index := BigEndian.decode ((chunk.drop 2).take 2)
  let total := BigEndian.decode ((chunk.drop 4).take 2)
  if headerBytes < chunk.length ∧ ¬(total = 0 ∨ maxChunks < total ∨ total ≤ index) then
    some ⟨BigEndian.decode (chunk.take 2), index, total, chunk.drop headerBytes⟩
  else none

theorem except_mapM_okOr {ι α ε : Type} {e : ε} (items : List ι) (f : ι → Option α) :
    (items.mapM fun item => okOr e (f item)) = okOr e (items.mapM f) := by
  induction items with
  | nil => rfl
  | cons item items ih =>
    rw [List.mapM_cons, List.mapM_cons, ih]
    rcases f item with _ | a
    · rfl
    · rcases items.mapM f with _ | rest <;> rfl

section Desktop

def pendingFrame (frame : Agent.PartialFrame) : Pending UInt8 := ⟨frame.total, frame.chunks⟩

/-- What the desktop's decoder has pending. -/
def DesktopHolds (decoder : BleFrameDecoder) (buffer : Table Nat (Pending UInt8)) : Prop :=
  Counts pendingFrame Agent.PartialFrame.bytes decoder.partialFrames buffer

/-- How the desktop's decoder puts an answer. -/
def DesktopShows : Except IoError (Option Bytes) → Answer UInt8 → Prop
  | .ok (some frame), answer => answer = .complete frame
  | .ok none, answer => answer = .kept
  | .error _, answer => answer = .refused

theorem desktop_implements : Implements bleLimits parseChunk BleFrameDecoder.addChunk DesktopShows DesktopHolds := by
  intro chunk decoder buffer holds
  unfold parseChunk BleFrameDecoder.addChunk
  simp only [Fallible.require_bind_run]
  by_cases payload : headerBytes < chunk.length
  · by_cases header : BigEndian.decode ((chunk.drop 4).take 2) = 0 ∨
        maxChunks < BigEndian.decode ((chunk.drop 4).take 2) ∨
        BigEndian.decode ((chunk.drop 4).take 2) ≤ BigEndian.decode ((chunk.drop 2).take 2)
    · rw [if_pos payload, if_neg (not_not_intro header), if_neg fun both => both.2 header]
      exact ⟨rfl, holds⟩
    · rw [if_pos payload, if_pos header, if_pos ⟨payload, header⟩]
      generalize BigEndian.decode (chunk.take 2) = frameId at *
      generalize BigEndian.decode ((chunk.drop 2).take 2) = index at *
      generalize BigEndian.decode ((chunk.drop 4).take 2) = total at *
      have length : (chunk.drop headerBytes).length = chunk.length - headerBytes := List.length_drop
      obtain ⟨frame, held, count, stands⟩ := holds.stands frameId (rfl : (Agent.PartialFrame.new total).bytes = _)
      rw [Fallible.bind_run, Fallible.get_run]
      simp only [Reassembly.offer, Fallible.require_bind_run]
      by_cases full : decoder.partialFrames.get? frameId = none ∧
          maxPartialFrames ≤ decoder.partialFrames.entries.length
      · rw [if_neg (not_not_intro full), Reassembly.accept_full (holds.full.mpr full)]
        exact ⟨rfl, holds⟩
      have spare : ¬(buffer.get? frameId = none ∧ bleLimits.room ≤ buffer.entries.length) := fun both =>
        full (holds.full.mp both)
      rw [if_pos full, held]
      by_cases clash : frame.total ≠ total ∨ frame.chunks.get? index ≠ none
      · rw [if_pos clash, Reassembly.accept_clash spare stands (clash.imp_right Or.inl)]
        exact ⟨rfl, holds.remove frameId⟩
      rw [if_neg clash]
      obtain ⟨agrees, vacant⟩ := not_or.mp clash
      by_cases long : maxFrame < frame.bytes + (chunk.length - headerBytes)
      · rw [if_pos long, Reassembly.accept_clash spare stands (Or.inr (Or.inr (by rwa [length, ← count])))]
        exact ⟨rfl, holds.remove frameId⟩
      rw [if_neg long]
      have fits : Reassembly.Fits bleLimits ⟨frameId, index, total, chunk.drop headerBytes⟩ buffer (pendingFrame frame) :=
        ⟨spare, stands, not_not.mp agrees, not_not.mp vacant, by rw [length, ← count]; exact Nat.not_lt.mp long⟩
      by_cases short : (frame.chunks.insert index (chunk.drop headerBytes)).entries.length ≠ total
      · rw [if_pos short, fits.accept_kept short]
        have size := Reassembly.size_insert fits.vacant (chunk.drop headerBytes)
        rw [length, ← count] at size
        exact ⟨rfl, holds.insert frameId size.symm⟩
      · rw [if_neg short, fits.accept_last (not_not.mp short), Reassembly.Pending.message]
        simp only [pendingFrame, not_not.mp agrees]
        rw [Fallible.bind_run, Fallible.set_run]
        dsimp only
        rw [Fallible.bind_run, Fallible.liftM_run, except_mapM_okOr]
        rcases (List.range total).mapM (frame.chunks.insert index (chunk.drop headerBytes)).get? with _ | parts
        · exact ⟨rfl, holds.remove frameId⟩
        · exact ⟨rfl, holds.remove frameId⟩
  · rw [if_neg payload, if_neg fun both => payload both.1]
    exact ⟨rfl, holds⟩

end Desktop

section Phone

def pendingPart (frame : PartialFrame) : Pending UInt8 := ⟨frame.total, frame.chunks⟩

/-- What the phone's decoder has pending. -/
structure PhoneHolds (codec : BleFrameCodec) (buffer : Table Nat (Pending UInt8)) : Prop where
  counts : Counts pendingPart PartialFrame.bytes codec.partialFrames buffer
  standard : codec.maxFrameBytes = maxFrame

/-- How the phone's decoder puts an answer. -/
def PhoneShows : Option Bytes → Answer UInt8 → Prop
  | some frame, answer => answer = .complete frame
  | none, answer => answer = .kept ∨ answer = .refused

theorem phone_implements : Implements bleLimits parseChunk BleFrameCodec.addChunk PhoneShows PhoneHolds := by
  intro chunk codec buffer holds
  obtain ⟨counts, standard⟩ := id holds
  unfold parseChunk BleFrameCodec.addChunk
  simp only [show BleFrameCodec.headerBytes = headerBytes from rfl, show BleFrameCodec.maxChunks = maxChunks from rfl,
    show BleFrameCodec.maxPartialFrames = maxPartialFrames from rfl]
  by_cases payload : headerBytes < chunk.length
  · by_cases header : BigEndian.decode ((chunk.drop 4).take 2) = 0 ∨
        maxChunks < BigEndian.decode ((chunk.drop 4).take 2) ∨
        BigEndian.decode ((chunk.drop 4).take 2) ≤ BigEndian.decode ((chunk.drop 2).take 2)
    · rw [if_neg (Nat.not_le.mpr payload), if_pos (header.imp_left Nat.lt_one_iff.mpr), if_neg fun both => both.2 header]
      exact ⟨Or.inr rfl, holds⟩
    · have parses := And.intro payload header
      rw [if_neg (Nat.not_le.mpr payload), if_neg fun refused => header (refused.imp_left Nat.lt_one_iff.mp),
        if_pos parses]
      generalize BigEndian.decode (chunk.take 2) = frameId at *
      generalize BigEndian.decode ((chunk.drop 2).take 2) = index at *
      generalize BigEndian.decode ((chunk.drop 4).take 2) = total at *
      have length : (chunk.drop headerBytes).length = chunk.length - headerBytes := List.length_drop
      obtain ⟨frame, held, count, stands⟩ := counts.stands frameId (rfl : (⟨total, .empty, 0⟩ : PartialFrame).bytes = _)
      have without : PhoneHolds ⟨maxFrame, codec.nextFrameId, codec.partialFrames.remove frameId⟩ (buffer.remove frameId) :=
        ⟨counts.remove frameId, rfl⟩
      simp only [Reassembly.offer]
      by_cases full : codec.partialFrames.get? frameId = none ∧ maxPartialFrames ≤ codec.partialFrames.entries.length
      · rw [if_pos full, Reassembly.accept_full (counts.full.mpr full)]
        exact ⟨Or.inr rfl, holds⟩
      have spare : ¬(buffer.get? frameId = none ∧ bleLimits.room ≤ buffer.entries.length) := fun both =>
        full (counts.full.mp both)
      rw [if_neg full, held, standard]
      by_cases clash : frame.total ≠ total ∨ frame.chunks.get? index ≠ none
      · rw [if_pos clash, Reassembly.accept_clash spare stands (clash.imp_right Or.inl)]
        exact ⟨Or.inr rfl, without⟩
      rw [if_neg clash]
      obtain ⟨agrees, vacant⟩ := not_or.mp clash
      by_cases long : maxFrame < frame.bytes + (chunk.length - headerBytes)
      · rw [if_pos long, Reassembly.accept_clash spare stands (Or.inr (Or.inr (by rwa [length, ← count])))]
        exact ⟨Or.inr rfl, without⟩
      rw [if_neg long]
      have fits : Reassembly.Fits bleLimits ⟨frameId, index, total, chunk.drop headerBytes⟩ buffer (pendingPart frame) :=
        ⟨spare, stands, not_not.mp agrees, not_not.mp vacant, by rw [length, ← count]; exact Nat.not_lt.mp long⟩
      by_cases short : (frame.chunks.insert index (chunk.drop headerBytes)).entries.length ≠ total
      · rw [if_pos short, fits.accept_kept short]
        have size := Reassembly.size_insert fits.vacant (chunk.drop headerBytes)
        rw [length, ← count] at size
        exact ⟨Or.inl rfl, counts.insert frameId size.symm, rfl⟩
      · rw [if_neg short, fits.accept_last (not_not.mp short), Reassembly.Pending.message]
        simp only [pendingPart, not_not.mp agrees]
        rcases (List.range total).mapM (frame.chunks.insert index (chunk.drop headerBytes)).get? with _ | parts
        · exact ⟨Or.inr rfl, without⟩
        · exact ⟨rfl, without⟩
  · rw [if_pos (Nat.not_lt.mp payload), if_neg fun both => payload both.1]
    exact ⟨Or.inr rfl, holds⟩

end Phone

end BioAuth.Mobile
