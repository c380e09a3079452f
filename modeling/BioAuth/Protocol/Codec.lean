import BioAuth.CborSpelling
import BioAuth.Protocol.Common

namespace BioAuth.Protocol
open BioAuth

variable {α : Type}

def cbor (read : Parse CborError α) : Parse ProtocolError α := Fallible.mapError ProtocolError.cbor read

/-- A byte string of one length. -/
def fixedBytes (n : Nat) (field : String) (value : Bytes) : Except ProtocolError (Block n) :=
  if length : value.length = n then .ok ⟨value, length⟩ else .error (.fieldLength field n value.length)

/-- An array of so many elements, the first of them a number that says what it is, and nothing after it. -/
def readRecord (fields marker : UInt64) (unexpected : UInt64 → ProtocolError) (read : Parse ProtocolError α) :
    Parse ProtocolError α := do
  let len ← cbor Reader.array
  require (len = fields) (ProtocolError.frameShape fields len)
  let found ← cbor Reader.uint
  require (found = marker) (unexpected found)
  let value ← read
  cbor Reader.finish
  return value

/-- How every session message is decoded: its fields are checked before its spelling is. -/
def decodeFrame (fields kind : UInt64) (read : Parse ProtocolError α) (validate : α → Except ProtocolError Unit)
    (encode : α → Bytes) (frame : Bytes) : Except ProtocolError α := do
  checkFrameSize frame
  let value ← (readRecord fields kind .unexpectedMessageType read frame).1
  validate value
  require (frame = encode value) ProtocolError.notCanonical
  return value

/-- The bound on an application payload. -/
def maxApplicationPayloadBytes : Nat := 6 * 1024

/-- How every application payload is decoded, with `open` in front and `finish` at the end: its spelling is checked
before its fields are. -/
def decodePayload (fields schema : UInt64) (read : Parse ProtocolError α) (encode : α → Bytes)
    (validate : α → Except ProtocolError Unit) (payload : Bytes) : Except ProtocolError α := do
  require (payload ≠ [] ∧ payload.length ≤ maxApplicationPayloadBytes) (ProtocolError.payloadSize payload.length)
  let value ← (readRecord fields schema .unsupportedVersion read payload).1
  require (encode value = payload) ProtocolError.notCanonical
  validate value
  return value

/-- A codec is exact: what it decodes is the encoding of the value, and the encoding of a valid value that is within
the limit decodes to that value. -/
structure Exact (encode : α → Bytes) (validate : α → Except ProtocolError Unit)
    (decode : Bytes → Except ProtocolError α) (limit : Nat) : Prop where
  canonical : ∀ b x, decode b = .ok x → encode x = b
  complete : ∀ x, validate x = .ok () → (encode x).length ≤ limit → decode (encode x) = .ok x

/-- No length the wire carries passes this. -/
def wireLimit : Nat := 2 ^ 64

theorem fixedBytes_block {n : Nat} (field : String) (block : Block n) : fixedBytes n field block.val = .ok block := by
  unfold fixedBytes
  rw [dif_pos block.property]

theorem array_reads (len : UInt64) : Parse.Reads wireLimit (cbor Reader.array) (Writer.array len) len :=
  (Reader.array_spells.mapError _).reads fun _ => trivial

theorem uint_reads (value : UInt64) : Parse.Reads wireLimit (cbor Reader.uint) (Writer.uint value) value :=
  (Reader.uint_spells.mapError _).reads fun _ => trivial

theorem int_reads (value : Int64) : Parse.Reads wireLimit (cbor Reader.int) (Writer.int value) value :=
  (Reader.int_spells.mapError _).reads fun _ => trivial

theorem text_reads (value : String) : Parse.Reads wireLimit (cbor Reader.text) (Writer.text value) value := by
  refine (Reader.text_spells.mapError _).reads fun short => ?_
  rw [Writer.text, List.length_append] at short
  unfold wireLimit at short
  omega

theorem bytes_reads (value : Bytes) : Parse.Reads wireLimit (cbor Reader.bytes) (Writer.bytes value) value := by
  refine (Reader.bytes_spells.mapError _).reads fun short => ?_
  rw [Writer.bytes, List.length_append] at short
  unfold wireLimit at short
  omega

/-- A byte string of one length, read on into a reader of the rest. -/
theorem fixed_reads {n : Nat} (field : String) (block : Block n) {f : Block n → Parse ProtocolError α} {back : Bytes}
    {a : α} (next : Parse.Reads wireLimit (f block) back a) :
    Parse.Reads wireLimit (do let value ← cbor Reader.bytes; let block ← fixedBytes n field value; f block)
      (Writer.bytes block.val ++ back) a :=
  (bytes_reads _).bind (.lift (fixedBytes_block field block) next)

theorem finish_run : cbor Reader.finish [] = (.ok (), []) := Fallible.mapError_eq_ok.mpr (Reader.finish_eq_ok.mpr ⟨rfl, rfl⟩)

theorem readRecord_run {fields marker : UInt64} {unexpected : UInt64 → ProtocolError} {read : Parse ProtocolError α}
    {body : Bytes} {a : α} (reads : Parse.Reads wireLimit read body a)
    (short : (Writer.array fields ++ (Writer.uint marker ++ body)).length < wireLimit) :
    (readRecord fields marker unexpected read (Writer.array fields ++ (Writer.uint marker ++ body))).1 = .ok a := by
  have front (finish : α → Parse ProtocolError α) (rest : Bytes) :
      (do
        let len ← cbor Reader.array
        require (len = fields) (ProtocolError.frameShape fields len)
        let found ← cbor Reader.uint
        require (found = marker) (unexpected found)
        let value ← read
        finish value : Parse ProtocolError α) (Writer.array fields ++ (Writer.uint marker ++ (body ++ rest))) =
        finish a rest := by
    simp only [List.length_append] at short
    rw [Fallible.bind_run_ok _ (array_reads fields (by omega) _), require, if_pos rfl,
      Fallible.bind_run_ok _ (Fallible.pure_run _ _), Fallible.bind_run_ok _ (uint_reads marker (by omega) _), require,
      if_pos rfl, Fallible.bind_run_ok _ (Fallible.pure_run _ _), Fallible.bind_run_ok _ (reads (by omega) _)]
  have whole := front (fun value => do cbor Reader.finish; return value) []
  rw [List.append_nil, Fallible.bind_run_ok _ finish_run] at whole
  exact congrArg Prod.fst whole

section Exactness
variable {fields marker : UInt64} {read : Parse ProtocolError α} {validate : α → Except ProtocolError Unit}
  {encode : α → Bytes} {body : α → Bytes}

theorem decodeFrame_eq_ok {b : Bytes} {x : α} (run : decodeFrame fields marker read validate encode b = .ok x) :
    encode x = b ∧ validate x = .ok () := by
  unfold decodeFrame at run
  simp only [except_bind_eq_ok, except_pure_eq_ok, except_require_eq_ok, exists_const] at run
  obtain ⟨_, _, value, _, _, valid, same, rfl⟩ := run
  exact ⟨same.symm, valid⟩

theorem decodePayload_eq_ok {b : Bytes} {x : α} (run : decodePayload fields marker read encode validate b = .ok x) :
    encode x = b ∧ validate x = .ok () := by
  unfold decodePayload at run
  simp only [except_bind_eq_ok, except_pure_eq_ok, except_require_eq_ok, exists_const] at run
  obtain ⟨_, value, _, same, _, valid, rfl⟩ := run
  exact ⟨same, valid⟩

variable (reads : ∀ x, validate x = .ok () → Parse.Reads wireLimit read (body x) x)
  (spelled : ∀ x, encode x = Writer.array fields ++ (Writer.uint marker ++ body x))
include reads spelled

theorem decodeFrame_exact : Exact encode validate (decodeFrame fields marker read validate encode) maxFrameBytes where
  canonical _ _ run := (decodeFrame_eq_ok run).1
  complete := by
    intro x valid within
    have some : encode x ≠ [] := by
      rw [spelled]
      exact fun none => Writer.head_ne_nil _ _ (List.append_eq_nil_iff.mp none).1
    have read : (readRecord fields marker .unexpectedMessageType read (encode x)).1 = .ok x := by
      rw [spelled] at within ⊢
      unfold maxFrameBytes at within
      exact readRecord_run (reads x valid) (by unfold wireLimit; omega)
    have size : checkFrameSize (encode x) = .ok () := except_require_eq_ok.mpr ⟨some, within⟩
    unfold decodeFrame
    simp only [except_bind_eq_ok, except_pure_eq_ok, except_require_eq_ok]
    exact ⟨(), size, x, read, (), valid, (), rfl, rfl⟩

theorem decodePayload_exact :
    Exact encode validate (decodePayload fields marker read encode validate) maxApplicationPayloadBytes where
  canonical _ _ run := (decodePayload_eq_ok run).1
  complete := by
    intro x valid within
    have some : encode x ≠ [] := by
      rw [spelled]
      exact fun none => Writer.head_ne_nil _ _ (List.append_eq_nil_iff.mp none).1
    have read : (readRecord fields marker .unsupportedVersion read (encode x)).1 = .ok x := by
      rw [spelled] at within ⊢
      unfold maxApplicationPayloadBytes at within
      exact readRecord_run (reads x valid) (by unfold wireLimit; omega)
    unfold decodePayload
    simp only [except_bind_eq_ok, except_pure_eq_ok, except_require_eq_ok]
    exact ⟨(), ⟨some, within⟩, x, read, (), rfl, (), valid, rfl⟩

end Exactness

end BioAuth.Protocol
