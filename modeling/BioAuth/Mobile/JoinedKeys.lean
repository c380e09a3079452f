import BioAuth.Lib.Joined
import BioAuth.Mobile.ApprovalGuard
import BioAuth.Mobile.PairingService
import BioAuth.Session.HandshakeSound

namespace BioAuth

namespace Protocol.AuthRequest

/-- What a request asks for: what is left out is its id, its challenge and its times. -/
def asked (request : AuthRequest) : List String :=
  [request.verifierId, request.credentialId, request.service, request.action, request.resource, request.user]

/-- Groups requests that ask for the same thing. -/
def fingerprint (request : AuthRequest) : String := "\x00".intercalate request.asked

end Protocol.AuthRequest

namespace Session

/-- The fields a session binding is computed of. -/
def SessionBindingInputs.fields (inputs : SessionBindingInputs) : List Bytes :=
  [utf8 inputs.transportName, utf8 inputs.sessionId, inputs.serverEphemeral, inputs.clientEphemeral, inputs.exporter]

def bindingInput (inputs : SessionBindingInputs) : Bytes := bindingDomain ++ inputs.fields.flatMap lengthPrefixed

theorem sessionBinding_eq [Crypto] (inputs : SessionBindingInputs) :
    sessionBinding inputs = Crypto.sha256 (bindingInput inputs) := rfl

/-- No slice is longer than an index of 64 bits reaches. -/
def Slices (fields : List Bytes) : Prop := ∀ field ∈ fields, field.length < 256 ^ 8

theorem transcriptInput_injective {server client server' client' : Bytes} (slices : Slices [server, client])
    (others : Slices [server', client']) (same : transcriptInput server client = transcriptInput server' client') :
    server = server' ∧ client = client' := by
  have fields := Joined.prefixed_injective slices others rfl (List.append_cancel_left same)
  rw [List.cons.injEq, List.cons.injEq] at fields
  exact ⟨fields.1, fields.2.1⟩

theorem bindingInput_injective {inputs others : SessionBindingInputs} (slices : Slices inputs.fields)
    (slices' : Slices others.fields) (same : bindingInput inputs = bindingInput others) : inputs = others := by
  have fields := Joined.prefixed_injective slices slices' rfl (List.append_cancel_left same)
  simp only [SessionBindingInputs.fields, List.cons.injEq, and_true] at fields
  obtain ⟨transportName, sessionId, serverEphemeral, clientEphemeral, exporter⟩ := fields
  cases inputs
  cases others
  cases utf8_injective transportName
  cases utf8_injective sessionId
  cases serverEphemeral
  cases clientEphemeral
  cases exporter
  rfl

end Session

namespace Mobile
open BioAuth.Protocol (AuthRequest)
open BioAuth.Session (SessionBindingInputs Slices bindingInput transcriptInput)

/-- What a request asks for, as the phone sees it. -/
def AuthenticationRequest.asked (request : AuthenticationRequest) : List String :=
  [request.verifierId, request.credentialId, request.service, request.action, request.resource, request.user]

/-- Whose request ids these are: one desktop, one of its credentials. -/
def replayScope (record : PairingRecord) : String := record.verifierId ++ "\x00" ++ record.credentialId

/-- How many separators a text holds itself. -/
def nuls (text : String) : Nat := text.toList.count '\x00'

/-- Texts joined by a separator are the same ones exactly where they hold as many separators each. -/
theorem same_fields_iff {fields others : List String} (joined : "\x00".intercalate fields = "\x00".intercalate others) :
    fields = others ↔ fields.map nuls = others.map nuls := by
  refine ⟨fun same => by rw [same], fun counts => ?_⟩
  have lists := congrArg String.toList joined
  rw [String.toList_intercalate, String.toList_intercalate] at lists
  have counted : (fields.map String.toList).map (List.count '\x00') = (others.map String.toList).map (List.count '\x00') := by
    rw [List.map_map, List.map_map]
    exact counts
  have same := Joined.joined_injective lists counted
  exact List.map_injective_iff.mpr (fun _ _ => String.toList_inj.mp) same

theorem purposeName_nuls (purpose : Protocol.CredentialPurpose) : nuls ("-" ++ purposeName purpose ++ "-v1") = 0 := by
  cases purpose <;> decide

theorem nuls_append (front back : String) : nuls (front ++ back) = nuls front + nuls back := by
  rw [nuls, String.toList_append, List.count_append]
  rfl

/-- The id of a verifier is part of the names of its credentials, so however many separators it holds, the scope of its
records is theirs alone. -/
theorem replayScope_injective {record other : PairingRecord} (named : record.Named) (named' : other.Named)
    (same : replayScope record = replayScope other) :
    record.verifierId = other.verifierId ∧ record.credentialId = other.credentialId := by
  have separators (record : PairingRecord) (named : record.Named) : nuls record.credentialId = nuls record.verifierId := by
    rw [named, credentialIdFor, String.append_assoc, String.append_assoc, nuls_append, ← String.append_assoc,
      purposeName_nuls, Nat.add_zero]
  have counts : nuls record.verifierId = nuls other.verifierId := by
    have total := congrArg nuls same
    simp only [replayScope, nuls_append, separators record named, separators other named'] at total
    omega
  have lists := congrArg String.toList same
  simp only [replayScope, String.toList_append, List.append_assoc] at lists
  obtain ⟨verifier, credential⟩ := Joined.split_unique lists counts
  exact ⟨String.toList_inj.mp verifier, String.toList_inj.mp credential⟩

/-- Of two admitted requests with one fingerprint: they ask for the same thing. -/
def Unambiguous {α : Type} (key : α → String) (parts : α → List String) (a b : α) : Prop :=
  key a = key b → parts a = parts b

/-- The preimages of the transcript and of the session binding tell their inputs apart, and so does the replay scope of
every two records that can be stored. Of two requests with one fingerprint, on either side, exactly those ask for the
same thing that hold their separators in the same fields. -/
theorem joined_keys_unambiguous (server client server' client' : Bytes) :
    (Slices [server, client] → Slices [server', client'] →
      transcriptInput server client = transcriptInput server' client' → server = server' ∧ client = client') ∧
    (∀ inputs others : SessionBindingInputs, Slices inputs.fields → Slices others.fields →
      bindingInput inputs = bindingInput others → inputs = others) ∧
    (∀ [Crypto] (changes others : List PairingChange), (∀ change ∈ changes, change.Begun) →
      (∀ change ∈ others, change.Begun) → ∀ record ∈ recordsAfter changes, ∀ other ∈ recordsAfter others,
        replayScope record = replayScope other →
          record.verifierId = other.verifierId ∧ record.credentialId = other.credentialId) ∧
    (∀ a b : AuthRequest, a.validate = .ok () → b.validate = .ok () →
      (Unambiguous AuthRequest.fingerprint AuthRequest.asked a b ↔
        (a.fingerprint = b.fingerprint → a.asked.map nuls = b.asked.map nuls))) ∧
    ∀ a b : AuthenticationRequest, a.validate = .ok () → b.validate = .ok () →
      (Unambiguous AuthenticationRequest.fingerprint AuthenticationRequest.asked a b ↔
        (a.fingerprint = b.fingerprint → a.asked.map nuls = b.asked.map nuls)) := by
  refine ⟨fun slices others same => Session.transcriptInput_injective slices others same,
    fun _ _ slices others same => Session.bindingInput_injective slices others same, ?_, ?_, ?_⟩
  · intro _ changes others begun begun' record member other member' same
    exact replayScope_injective (recordsAfter_named begun record member) (recordsAfter_named begun' other member') same
  · exact fun a b _ _ => forall_congr' fun joined => same_fields_iff joined
  · exact fun a b _ _ => forall_congr' fun joined => same_fields_iff joined

/-- A request for a service by some verifier with some credential. -/
def splitRequest (verifierId credentialId : String) : AuthRequest where
  protocolVersion := 1
  requestId := "r"
  verifierId := verifierId
  verifierName := "desk"
  credentialId := credentialId
  challenge := ⟨List.replicate 32 1, List.length_replicate⟩
  service := "sudo"
  action := "run"
  resource := "ls"
  user := "ana"
  issuedAtMs := 0
  expiresAtMs := 1000
  sessionBinding := ⟨List.replicate 32 2, List.length_replicate⟩

/-- The same request on the phone. -/
def splitMessage (verifierId credentialId : String) : AuthenticationRequest where
  protocolVersion := 1
  requestId := "r"
  verifierId := verifierId
  verifierName := "desk"
  credentialId := credentialId
  challenge := List.replicate 32 1
  origin := "lan"
  service := "sudo"
  action := "run"
  resource := "ls"
  user := "ana"
  issuedAt := .sinceEpoch 0
  expiresAt := .sinceEpoch 1000
  sessionBinding := List.replicate 32 2

/-- Two admitted requests, of different verifiers with different credentials, share a fingerprint. -/
theorem fingerprint_shared :
    (splitRequest "a\x00b" "c").validate = .ok () ∧ (splitRequest "a" "b\x00c").validate = .ok () ∧
    ¬Unambiguous AuthRequest.fingerprint AuthRequest.asked (splitRequest "a\x00b" "c") (splitRequest "a" "b\x00c") ∧
    (splitMessage "a\x00b" "c").validate = .ok () ∧ (splitMessage "a" "b\x00c").validate = .ok () ∧
    ¬Unambiguous AuthenticationRequest.fingerprint AuthenticationRequest.asked (splitMessage "a\x00b" "c")
      (splitMessage "a" "b\x00c") := by
  have other : ["a\x00b", "c", "sudo", "run", "ls", "ana"] ≠ ["a", "b\x00c", "sudo", "run", "ls", "ana"] := by decide
  have joined : "\x00".intercalate ["a\x00b", "c", "sudo", "run", "ls", "ana"] =
      "\x00".intercalate ["a", "b\x00c", "sudo", "run", "ls", "ana"] := by decide
  exact ⟨by decide +kernel, by decide +kernel, fun same => other (same joined), by decide +kernel, by decide +kernel,
    fun same => other (same joined)⟩

end Mobile

end BioAuth
