import BioAuth.Lib.BigEndian
import BioAuth.Lib.Deframing

namespace BioAuth.Agent
open BioAuth

/-- `MAX_MESSAGE_BYTES`. -/
def maxMessageBytes : Nat := 256 * 1024

def announcedLength (octets : Bytes) : Except String (Option Nat) :=
  if octets.length < 4 then .ok none
  else
    let length := BigEndian.decode (octets.take 4)
    if length = 0 then .error "empty agent message"
    else if maxMessageBytes < length then .error "agent message over the size limit"
    else .ok (some length)

structure SshFraming where
  pending : Bytes

namespace SshFraming

def new : SshFraming := ⟨[]⟩

/-- The loop of `push`, with what it has taken so far. -/
def drain (out : List Bytes) (pending : Bytes) : Except String (List Bytes) × Bytes :=
  match announcedLength pending with
  | .error e => (.error e, pending)
  | .ok none => (.ok out, pending)
  | .ok (some length) =>
    if pending.length < 4 + length then (.ok out, pending)
    else drain (out ++ [(pending.drop 4).take length]) (pending.drop (4 + length))
termination_by pending.length
decreasing_by
  rw [List.length_drop]
  omega

def push (bytes : Bytes) : Fallible SshFraming String (List Bytes) := fun framing =>
  let (result, pending) := drain [] (framing.pending ++ bytes)
  (result, { framing with pending })

/-- The four octets before an agent message. -/
def framing : Deframing.Framing UInt8 String where
  width := 4
  positive := by decide
  announced announcement :=
    let length := BigEndian.decode announcement
    if length = 0 then .error "empty agent message"
    else if maxMessageBytes < length then .error "agent message over the size limit"
    else .ok length

theorem announced_le {announcement : Bytes} {length : Nat} (announced : framing.announced announcement = .ok length) :
    length ≤ maxMessageBytes := by
  unfold framing at announced
  dsimp only at announced
  split at announced
  · cases announced
  · split at announced
    · cases announced
    · cases announced
      omega

/-- What stands before the first four octets of anything. -/
theorem announcedLength_eq {octets : Bytes} (long : ¬octets.length < framing.width) :
    announcedLength octets = (framing.announced (octets.take framing.width)).map some := by
  rw [announcedLength, if_neg (show ¬octets.length < 4 from long)]
  unfold framing
  dsimp only
  split
  · rfl
  · split <;> rfl

/-- The loop takes what the stream parses to. -/
theorem drain_eq (out : List Bytes) (pending : Bytes) : drain out pending =
    (match (framing.parse pending).refused with
      | some e => .error e
      | none => .ok (out ++ (framing.parse pending).messages), (framing.parse pending).rest) := by
  fun_induction Deframing.Framing.parse framing pending generalizing out with
  | case1 pending short =>
    unfold drain
    rw [announcedLength, if_pos (show pending.length < 4 from short), List.append_nil]
  | case2 pending long e announced =>
    unfold drain
    rw [announcedLength_eq long, announced]
    rfl
  | case3 pending long length announced short =>
    unfold drain
    rw [announcedLength_eq long, announced, List.append_nil]
    exact if_pos short
  | case4 pending long length announced whole ih =>
    unfold drain
    rw [announcedLength_eq long, announced]
    refine (if_neg whole).trans ((ih _).trans ?_)
    simp only [Deframing.Parsed.after, List.append_assoc]
    rfl

/-- `push` over what is pending, which is all there is of a framer. -/
def step (bytes : Bytes) : Fallible Bytes String (List Bytes) := fun pending =>
  let (result, framing) := push bytes ⟨pending⟩
  (result, framing.pending)

theorem step_eq (bytes pending : Bytes) : step bytes pending =
    (match (framing.parse (pending ++ bytes)).refused with
      | some e => .error e
      | none => .ok (framing.parse (pending ++ bytes)).messages, (framing.parse (pending ++ bytes)).rest) := by
  rw [step, push, drain_eq]
  rfl

theorem feeds : Deframing.Feeds framing step where
  taken bytes pending passed := by rw [step_eq, passed]
  refused bytes pending e refused := by rw [step_eq, refused]

end SshFraming

end BioAuth.Agent
