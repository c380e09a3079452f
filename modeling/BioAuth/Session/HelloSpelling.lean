import BioAuth.CborSpelling
import BioAuth.Session.Handshake

namespace BioAuth.Session
open BioAuth

variable {α : Type}

theorem cbor_spells {p : Parse CborError α} {admits : α → Prop} {spell : α → Bytes}
    (spells : Parse.Spells p admits spell) : Parse.Spells (cbor p) admits spell :=
  spells.mapError _

theorem cbor_finish_eq_ok {s t : Bytes} {u : Unit} : cbor Reader.finish s = (.ok u, t) ↔ s = [] ∧ t = [] :=
  Fallible.mapError_eq_ok.trans Reader.finish_eq_ok

theorem fixed_eq_ok {n : Nat} {bytes : Bytes} {message : String} {block : Block n} :
    fixed n bytes message = .ok block ↔ bytes = block.val := by
  unfold fixed
  split
  · rename_i length
    rw [Except.ok.injEq, Subtype.ext_iff]
  · rename_i length
    simp only [reduceCtorEq, false_iff]
    intro same
    rw [same] at length
    exact length block.property

theorem PairingIntent.fromWire_eq_ok {value : UInt64} {intent : PairingIntent} :
    fromWire value = .ok intent ↔ value = intent.wire := by
  unfold fromWire
  split_ifs with resumes pairs
  · cases intent <;> simp [resumes, wire]
  · cases intent <;> simp [pairs, wire]
  · cases intent <;> simp [resumes, pairs, wire]

/-- A length that fits the argument of a head. -/
def Short (bytes : Bytes) : Prop := bytes.length < 2 ^ 64

instance (bytes : Bytes) : Decidable (Short bytes) := inferInstanceAs (Decidable (_ < _))

theorem Short.block {n : Nat} (block : Block n) (small : n < 2 ^ 64) : Short block.val := by
  unfold Short
  rwa [block.property]

theorem bytes_spells : Parse.Spells (cbor Reader.bytes) Short Writer.bytes := cbor_spells Reader.bytes_spells

theorem text_spells : Parse.Spells (cbor Reader.text) (fun text => Short (utf8 text)) Writer.text :=
  cbor_spells Reader.text_spells

/-- The one spelling of a server hello. -/
def ServerHello.spell (hello : ServerHello) : Bytes :=
  Writer.array 8 ++ Writer.uint serverHelloType ++ Writer.uint version ++ Writer.text hello.sessionId ++
    Writer.bytes hello.nonce.val ++ Writer.text hello.verifierId ++ Writer.int hello.expiresAtMs ++
    Writer.bytes hello.identitySpki ++ Writer.bytes hello.ephemeral.val

structure ServerHello.Fits (hello : ServerHello) : Prop where
  sessionId : Short (utf8 hello.sessionId)
  verifierId : Short (utf8 hello.verifierId)
  identitySpki : Short hello.identitySpki

theorem readServerHello_eq_ok {s t : Bytes} {hello : ServerHello} :
    readServerHello s = (.ok hello, t) ↔ hello.Fits ∧ s = hello.spell ∧ t = [] := by
  unfold readServerHello
  simp only [(cbor_spells Reader.array_spells).bind_eq_ok, (cbor_spells Reader.uint_spells).bind_eq_ok,
    (cbor_spells Reader.int_spells).bind_eq_ok, bytes_spells.bind_eq_ok, text_spells.bind_eq_ok, true_and,
    Fallible.require_bind_eq_ok, Fallible.liftM_bind_eq_ok, fixed_eq_ok]
  simp only [Fallible.bind_eq_ok, cbor_finish_eq_ok, Fallible.pure_eq_ok]
  constructor
  · rintro ⟨_, _, rfl, rfl, _, _, rfl, rfl, _, _, rfl, rfl, sessionId, _, ⟨session, rfl⟩, _, _, ⟨_, rfl⟩, nonce, rfl,
      verifierId, _, ⟨verifier, rfl⟩, expiresAtMs, _, rfl, identitySpki, _, ⟨spki, rfl⟩, _, _, ⟨_, rfl⟩, ephemeral, rfl,
      _, _, ⟨rfl, rfl⟩, rfl, rfl⟩
    refine ⟨⟨session, verifier, spki⟩, ?_, rfl⟩
    simp only [ServerHello.spell, List.append_assoc, List.append_nil]
  · rintro ⟨⟨session, verifier, spki⟩, rfl, rfl⟩
    rw [← List.append_nil hello.spell]
    exact ⟨_, _, by simp only [ServerHello.spell, List.append_assoc], rfl, _, _, rfl, rfl, _, _, rfl, rfl,
      hello.sessionId, _, ⟨session, rfl⟩, _, _, ⟨Short.block hello.nonce (by decide), rfl⟩, hello.nonce, rfl,
      hello.verifierId, _, ⟨verifier, rfl⟩, hello.expiresAtMs, _, rfl, hello.identitySpki, _, ⟨spki, rfl⟩, _, _,
      ⟨Short.block hello.ephemeral (by decide), rfl⟩, hello.ephemeral, rfl, (), [], ⟨rfl, rfl⟩, rfl, rfl⟩

theorem decodeServerHello_eq_ok {frame : Bytes} {hello : ServerHello} :
    decodeServerHello frame = .ok hello ↔ hello.Fits ∧ frame = hello.spell := by
  unfold decodeServerHello
  constructor
  · intro run
    rcases read : readServerHello frame with ⟨result, rest⟩
    rw [read] at run
    subst run
    obtain ⟨fits, spelled, _⟩ := readServerHello_eq_ok.mp read
    exact ⟨fits, spelled⟩
  · intro shape
    rw [readServerHello_eq_ok.mpr ⟨shape.1, shape.2, rfl⟩]

/-- The one spelling of a client hello, in the shape its intent calls for. -/
def ClientHello.spell (hello : ClientHello) : Bytes :=
  Writer.array (if hello.intent.isSome then 11 else 10) ++ Writer.uint clientHelloType ++
    Writer.uint (if hello.intent.isSome then versionWithIntent else version) ++ Writer.text hello.sessionId ++
    Writer.bytes hello.nonce.val ++ Writer.text hello.verifierId ++ Writer.int hello.expiresAtMs ++
    Writer.text hello.deviceId ++ Writer.bytes hello.serverEphemeral.val ++ Writer.bytes hello.ephemeral.val ++
    Writer.bytes hello.identitySpki ++ (hello.intent.map fun intent => Writer.uint intent.wire).getD []

structure ClientHello.Fits (hello : ClientHello) : Prop where
  sessionId : Short (utf8 hello.sessionId)
  verifierId : Short (utf8 hello.verifierId)
  deviceId : Short (utf8 hello.deviceId)
  identitySpki : Short hello.identitySpki

theorem readIntent_eq_ok {carried : Bool} {s t : Bytes} {intent : Option PairingIntent} :
    readIntent carried s = (.ok intent, t) ↔
      intent.isSome = carried ∧ s = (intent.map fun intent => Writer.uint intent.wire).getD [] ++ t := by
  unfold readIntent
  split
  · rename_i carries
    simp only [(cbor_spells Reader.uint_spells).bind_eq_ok, true_and, Fallible.liftM_bind_eq_ok,
      PairingIntent.fromWire_eq_ok, Fallible.pure_eq_ok, carries]
    constructor
    · rintro ⟨_, _, rfl, found, rfl, rfl, rfl⟩
      exact ⟨rfl, rfl⟩
    · rintro ⟨some, rfl⟩
      obtain ⟨found, rfl⟩ := Option.isSome_iff_exists.mp some
      exact ⟨found.wire, t, rfl, found, rfl, rfl, rfl⟩
  · rename_i absent
    have none : carried = false := by simpa using absent
    simp only [Fallible.pure_eq_ok, none]
    constructor
    · rintro ⟨rfl, rfl⟩
      exact ⟨rfl, rfl⟩
    · rintro ⟨missing, rfl⟩
      cases intent with
      | none => exact ⟨rfl, rfl⟩
      | some intent => cases missing

theorem readClientHello_eq_ok {s t : Bytes} {hello : ClientHello} :
    readClientHello s = (.ok hello, t) ↔ hello.Fits ∧ s = hello.spell ∧ t = [] := by
  unfold readClientHello
  simp only [(cbor_spells Reader.array_spells).bind_eq_ok, (cbor_spells Reader.uint_spells).bind_eq_ok,
    (cbor_spells Reader.int_spells).bind_eq_ok, bytes_spells.bind_eq_ok, text_spells.bind_eq_ok, true_and,
    Fallible.require_bind_eq_ok, Fallible.liftM_bind_eq_ok, fixed_eq_ok]
  simp only [Fallible.bind_eq_ok, cbor_finish_eq_ok, Fallible.pure_eq_ok, readIntent_eq_ok]
  constructor
  · rintro ⟨fields, _, rfl, _, _, rfl, rfl, spoken, _, rfl, shape, sessionId, _, ⟨session, rfl⟩, _, _, ⟨_, rfl⟩, nonce,
      rfl, verifierId, _, ⟨verifier, rfl⟩, expiresAtMs, _, rfl, deviceId, _, ⟨device, rfl⟩, _, _, ⟨_, rfl⟩,
      serverEphemeral, rfl, _, _, ⟨_, rfl⟩, ephemeral, rfl, identitySpki, _, ⟨spki, rfl⟩, intent, _, ⟨carried, rfl⟩,
      _, _, ⟨rfl, rfl⟩, rfl, rfl⟩
    refine ⟨⟨session, verifier, device, spki⟩, ?_, rfl⟩
    rcases shape with ⟨rfl, rfl⟩ | ⟨rfl, rfl⟩
    · have some : intent.isSome = true := by simpa using carried
      simp only [ClientHello.spell, some, if_true, List.append_assoc, List.append_nil]
    · have none : intent.isSome = false := by simpa using carried
      simp only [ClientHello.spell, none, if_false, List.append_assoc, List.append_nil, Bool.false_eq_true]
  · rintro ⟨⟨session, verifier, device, spki⟩, rfl, rfl⟩
    rw [← List.append_nil hello.spell]
    refine ⟨if hello.intent.isSome then 11 else 10, _, by simp only [ClientHello.spell, List.append_assoc], _, _, rfl,
      rfl, if hello.intent.isSome then versionWithIntent else version, _, rfl, ?_,
      hello.sessionId, _, ⟨session, rfl⟩, _, _, ⟨Short.block hello.nonce (by decide), rfl⟩, hello.nonce, rfl,
      hello.verifierId, _, ⟨verifier, rfl⟩, hello.expiresAtMs, _, rfl, hello.deviceId, _, ⟨device, rfl⟩, _, _,
      ⟨Short.block hello.serverEphemeral (by decide), rfl⟩, hello.serverEphemeral, rfl, _, _,
      ⟨Short.block hello.ephemeral (by decide), rfl⟩, hello.ephemeral, rfl, hello.identitySpki, _, ⟨spki, rfl⟩,
      hello.intent, [], ⟨?_, rfl⟩, (), [], ⟨rfl, rfl⟩, rfl, rfl⟩
    · cases hello.intent.isSome <;> decide
    · cases hello.intent.isSome <;> decide

theorem decodeClientHello_eq_ok {frame : Bytes} {hello : ClientHello} :
    decodeClientHello frame = .ok hello ↔ hello.Fits ∧ frame = hello.spell := by
  unfold decodeClientHello
  constructor
  · intro run
    rcases read : readClientHello frame with ⟨result, rest⟩
    rw [read] at run
    subst run
    obtain ⟨fits, spelled, _⟩ := readClientHello_eq_ok.mp read
    exact ⟨fits, spelled⟩
  · intro shape
    rw [readClientHello_eq_ok.mpr ⟨shape.1, shape.2, rfl⟩]

theorem readEnvelope_eq_ok {s t unsigned signature : Bytes} :
    readEnvelope s = (.ok (unsigned, signature), t) ↔
      (Short unsigned ∧ Short signature) ∧ s = envelope unsigned signature ∧ t = [] := by
  unfold readEnvelope
  simp only [(cbor_spells Reader.array_spells).bind_eq_ok, bytes_spells.bind_eq_ok, true_and,
    Fallible.require_bind_eq_ok]
  simp only [Fallible.bind_eq_ok, cbor_finish_eq_ok, Fallible.pure_eq_ok, Prod.mk.injEq]
  constructor
  · rintro ⟨_, _, rfl, rfl, _, _, ⟨first, rfl⟩, _, _, ⟨second, rfl⟩, _, _, ⟨rfl, rfl⟩, ⟨rfl, rfl⟩, rfl⟩
    refine ⟨⟨first, second⟩, ?_, rfl⟩
    simp only [envelope, List.append_assoc, List.append_nil]
  · rintro ⟨⟨first, second⟩, rfl, rfl⟩
    rw [← List.append_nil (envelope unsigned signature)]
    exact ⟨_, _, by simp only [envelope, List.append_assoc], rfl, unsigned, _, ⟨first, rfl⟩, signature, _,
      ⟨second, rfl⟩, (), [], ⟨rfl, rfl⟩, ⟨rfl, rfl⟩, rfl⟩

theorem decodeEnvelope_eq_ok {frame unsigned signature : Bytes} :
    decodeEnvelope frame = .ok (unsigned, signature) ↔
      frame.length ≤ maxHandshakeFrame ∧ frame = envelope unsigned signature := by
  unfold decodeEnvelope
  simp only [except_bind_eq_ok, except_require_eq_ok, exists_const]
  constructor
  · intro run
    obtain ⟨⟨_, bound⟩, run⟩ := run
    rcases read : readEnvelope frame with ⟨result, rest⟩
    rw [read] at run
    subst run
    exact ⟨bound, (readEnvelope_eq_ok.mp read).2.1⟩
  · intro shape
    obtain ⟨bound, rfl⟩ := shape
    have length : (envelope unsigned signature).length =
        (Writer.array 2).length + ((Writer.head majorBytes (UInt64.ofNat unsigned.length)).length + unsigned.length) +
          ((Writer.head majorBytes (UInt64.ofNat signature.length)).length + signature.length) := by
      simp only [envelope, Writer.bytes, List.length_append]
    have header : (Writer.array 2).length = 1 := by decide
    have some : envelope unsigned signature ≠ [] := by
      rw [← List.length_pos_iff, length]
      omega
    unfold maxHandshakeFrame at bound
    have first : Short unsigned := by
      unfold Short
      omega
    have second : Short signature := by
      unfold Short
      omega
    have read : readEnvelope (envelope unsigned signature) = (.ok (unsigned, signature), []) :=
      readEnvelope_eq_ok.mpr ⟨⟨first, second⟩, rfl, rfl⟩
    refine ⟨⟨some, bound⟩, ?_⟩
    rw [read]

end BioAuth.Session
