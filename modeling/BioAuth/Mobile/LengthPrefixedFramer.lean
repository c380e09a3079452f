import BioAuth.Agent.SshFraming
import BioAuth.Mobile.Dart

namespace BioAuth.Mobile
open BioAuth

def maxFramedBytes : Nat := 8192

def prefixBytes : Nat := 4

structure FramingException where
  message : String

def encodeFrame (frame : Bytes) : Except FramingException Bytes := do
  require (¬(frame = [] ∨ maxFramedBytes < frame.length))
    (FramingException.mk s!"refusing to write a {frame.length}-byte frame")
  return BigEndian.encode prefixBytes frame.length ++ frame

structure LengthPrefixedFramer where
  pending : Bytes

namespace LengthPrefixedFramer

def new : LengthPrefixedFramer := ⟨[]⟩

/-- The loop of `addChunk`, from an offset into the buffer. -/
def scan (buffer : Bytes) (offset : Nat) (frames : List Bytes) : Except FramingException (List Bytes × Nat) :=
  if buffer.length - offset < prefixBytes then .ok (frames, offset)
  else
    let length := BigEndian.decode ((buffer.drop offset).take prefixBytes)
    if length = 0 ∨ maxFramedBytes < length then .error ⟨s!"peer announced a {length}-byte frame"⟩
    else
      let stop := offset + prefixBytes + length
      if buffer.length < stop then .ok (frames, offset)
      else scan buffer stop (frames ++ [(buffer.drop (offset + prefixBytes)).take length])
termination_by buffer.length - offset
decreasing_by
  have := (by decide : 0 < prefixBytes)
  omega

def addChunk (chunk : Bytes) : Fallible LengthPrefixedFramer FramingException (List Bytes) := do
  modify fun framer => { framer with pending := framer.pending ++ chunk }
  let buffer := (← get).pending
  set ({ pending := [] } : LengthPrefixedFramer)
  let (frames, offset) ← scan buffer 0 []
  if offset < buffer.length then
    modify fun framer => { framer with pending := framer.pending ++ buffer.drop offset }
  return frames

def hasPartialFrame (framer : LengthPrefixedFramer) : Bool := 0 < framer.pending.length

/-- The four octets before a frame. -/
def framing : Deframing.Framing UInt8 FramingException where
  width := prefixBytes
  positive := by decide
  announced announcement :=
    let length := BigEndian.decode announcement
    if length = 0 ∨ maxFramedBytes < length then .error ⟨s!"peer announced a {length}-byte frame"⟩ else .ok length

theorem announced_le {announcement : Bytes} {length : Nat} (announced : framing.announced announcement = .ok length) :
    length ≤ maxFramedBytes := by
  unfold framing at announced
  dsimp only at announced
  split at announced
  · cases announced
  · cases announced
    omega

/-- The loop takes what the buffer parses to behind the offset. -/
theorem scan_eq {buffer : Bytes} {offset : Nat} (within : offset ≤ buffer.length) (frames : List Bytes) :
    scan buffer offset frames =
      match (framing.parse (buffer.drop offset)).refused with
      | some e => .error e
      | none => .ok (frames ++ (framing.parse (buffer.drop offset)).messages,
          buffer.length - (framing.parse (buffer.drop offset)).rest.length) := by
  have size : (buffer.drop offset).length = buffer.length - offset := List.length_drop
  fun_induction scan buffer offset frames with
  | case1 offset frames short =>
    have halts : Deframing.Halts framing (buffer.drop offset) none := .short (size.trans_lt short)
    rw [Deframing.Framing.parse_of_halts halts, List.append_nil, size, Nat.sub_sub_self within]
  | case2 offset frames long length bad =>
    have halts : Deframing.Halts framing (buffer.drop offset) (some ⟨s!"peer announced a {length}-byte frame"⟩) := by
      rw [← List.take_append_drop prefixBytes (buffer.drop offset)]
      refine .refused (List.length_take_of_le (by omega)) ?_
      exact if_pos bad
    rw [Deframing.Framing.parse_of_halts halts]
  | case3 offset frames long length good stop short =>
    have halts : Deframing.Halts framing (buffer.drop offset) none := by
      rw [← List.take_append_drop prefixBytes (buffer.drop offset)]
      refine .cut (List.length_take_of_le (by omega)) (if_neg good) ?_
      rw [List.length_drop]
      omega
    rw [Deframing.Framing.parse_of_halts halts, List.append_nil, size, Nat.sub_sub_self within]
  | case4 offset frames long length good stop whole ih =>
    have announcement : ((buffer.drop offset).take prefixBytes).length = framing.width :=
      List.length_take_of_le (by omega)
    have message : ((buffer.drop (offset + prefixBytes)).take length).length = length := by
      rw [List.length_take, List.length_drop]
      omega
    have parts : buffer.drop offset = (buffer.drop offset).take prefixBytes ++
        (buffer.drop (offset + prefixBytes)).take length ++ buffer.drop stop := by
      have behind : buffer.drop stop = (buffer.drop (offset + prefixBytes)).drop length := List.drop_drop.symm
      rw [List.append_assoc, behind, List.take_append_drop, ← List.drop_drop, List.take_append_drop]
    have announced : framing.announced ((buffer.drop offset).take prefixBytes) =
        .ok ((buffer.drop (offset + prefixBytes)).take length).length := (if_neg good).trans (congrArg _ message.symm)
    rw [ih (by omega) List.length_drop, parts, Deframing.Framing.parse_message announcement announced]
    simp only [Deframing.Parsed.after, List.append_assoc]

/-- `addChunk` over what is pending, which is all there is of a framer. -/
def step (chunk : Bytes) : Fallible Bytes FramingException (List Bytes) := fun pending =>
  let (result, framer) := addChunk chunk ⟨pending⟩
  (result, framer.pending)

/-- A refused chunk leaves nothing pending. -/
theorem step_eq (chunk pending : Bytes) : step chunk pending =
    match (framing.parse (pending ++ chunk)).refused with
    | some e => (.error e, [])
    | none => (.ok (framing.parse (pending ++ chunk)).messages, (framing.parse (pending ++ chunk)).rest) := by
  have scanned := scan_eq (Nat.zero_le (pending ++ chunk).length) []
  rw [List.drop_zero] at scanned
  obtain ⟨octets, _, same, _⟩ := framing.parse_spec (pending ++ chunk)
  simp only [step, addChunk, Fallible.bind_run, Fallible.modify_run, Fallible.get_run, Fallible.set_run,
    Fallible.liftM_run, scanned]
  rcases (framing.parse (pending ++ chunk)).refused with _ | e
  · -- What is kept is the buffer from where the loop stopped, or nothing when it stopped at its end.
    have total : (pending ++ chunk).length = octets.length + (framing.parse (pending ++ chunk)).rest.length :=
      (congrArg List.length same).trans List.length_append
    have left : (pending ++ chunk).drop ((pending ++ chunk).length - (framing.parse (pending ++ chunk)).rest.length) =
        (framing.parse (pending ++ chunk)).rest := by
      generalize (framing.parse (pending ++ chunk)).rest = rest at same total
      rw [total, Nat.add_sub_cancel, same, List.drop_left]
    dsimp only
    split
    · rw [left]
      rfl
    · have none : (framing.parse (pending ++ chunk)).rest = [] := List.length_eq_zero_iff.mp (by omega)
      rw [none]
      rfl
  · rfl

theorem feeds : Deframing.Feeds framing step where
  taken chunk pending passed := by rw [step_eq, passed]
  refused chunk pending e refused := by rw [step_eq, refused]

end LengthPrefixedFramer

open Deframing Agent in
/-- Whichever way a stream is split, both framers refuse it if it is to be refused, and hold what follows the messages
they handed out while they do not. They hand out the messages that the unsplit stream has before the refusal exactly
when none of these ends in the chunk that completes the announcement to refuse. -/
theorem framers_read_chunks (chunks : List Bytes) :
    Reads SshFraming.framing maxMessageBytes SshFraming.step chunks ∧
      Reads LengthPrefixedFramer.framing maxFramedBytes LengthPrefixedFramer.step chunks :=
  ⟨SshFraming.feeds.reads (fun _ _ => SshFraming.announced_le) chunks,
    LengthPrefixedFramer.feeds.reads (fun _ _ => LengthPrefixedFramer.announced_le) chunks⟩

open Deframing Agent in
/-- A message of one octet before an announcement of none is handed out if they come in two chunks, but not in one. -/
theorem message_lost_with_refusal :
    (feed SshFraming.step [[0, 0, 0, 1, 7], [0, 0, 0, 0]] []).handed = [[7]] ∧
      (feed SshFraming.step [[0, 0, 0, 1, 7, 0, 0, 0, 0]] []).handed = [] ∧
      (feed LengthPrefixedFramer.step [[0, 0, 0, 1, 7], [0, 0, 0, 0]] []).handed = [[7]] ∧
      (feed LengthPrefixedFramer.step [[0, 0, 0, 1, 7, 0, 0, 0, 0]] []).handed = [] := by
  have agent : Framed SshFraming.framing [[7]] [0, 0, 0, 1, 7] := @Framed.cons _ _ _ [0, 0, 0, 1] [7] _ _ rfl rfl .nil
  have phone : Framed LengthPrefixedFramer.framing [[7]] [0, 0, 0, 1, 7] :=
    @Framed.cons _ _ _ [0, 0, 0, 1] [7] _ _ rfl rfl .nil
  obtain ⟨first, second⟩ := @Feeds.handed_split _ _ _ _ SshFraming.feeds _ _ [0, 0, 0, 0] _ agent rfl rfl
  obtain ⟨third, fourth⟩ := @Feeds.handed_split _ _ _ _ LengthPrefixedFramer.feeds _ _ [0, 0, 0, 0] _ phone rfl rfl
  exact ⟨first, second, third, fourth⟩

end BioAuth.Mobile
