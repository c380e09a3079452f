import BioAuth.Mobile.Enrolment
import BioAuth.Mobile.PairingBootstrap
import BioAuth.Mobile.PermissionAgreement
import BioAuth.Mobile.VaultAgreement
import BioAuth.Verifier.GrantRuns

namespace BioAuth
open BioAuth.Protocol (AuthRequest SyncRequest ProtocolError maxApplicationPayloadBytes maxValidityMs)
open BioAuth.Protocol.LockerPayload (WrapRequest UnwrapRequest)
open BioAuth.Protocol.LuksPayload (EnrollRequest UnlockRequest)
open BioAuth.Protocol.Vault (ListRequest FetchRequest CreateRequest UpdateRequest DeleteRequest)
open BioAuth.Session (ServerBootstrap)
open BioAuth.Mobile (View Uint8List Thrown Named marked)

/-- A message that passes with some other value in its place passes with this one, when there is room for it. -/
def Passes {N M : Type} (put : N → M → M) (room delivered : M → Prop) (own : N) : Prop :=
  ∀ other message, delivered (put other message) → room (put own message) → delivered (put own message)

/-- The same of a payload: its sender's checks and its receiver take it, and there is room within what a frame carries. -/
def PayloadPasses {N M P : Type} (put : N → M → M) (validate : M → Except ProtocolError Unit) (encode : M → Bytes)
    (decode : Uint8List → Except Thrown P) (own : N) : Prop :=
  Passes put (fun message => (encode message).length ≤ maxApplicationPayloadBytes)
    (fun message => validate message = .ok () ∧ ∃ read, decode (.ofBytes (encode message)) = .ok read) own

namespace Agent

/-- What the agent is set up with, of which every message is built. -/
structure AgentConfig where
  verifierId : String
  verifierName : String
  requestValidityMs : Int64

namespace AgentConfig

/-- Rejects a configuration that would produce invalid requests. -/
def validate (config : AgentConfig) : Except String Unit := do
  require (Protocol.blank config.verifierId = false ∧ (utf8 config.verifierId).length ≤ 64)
    "verifierId must be 1-64 characters"
  require (Protocol.blank config.verifierName = false ∧ utf16Len config.verifierName ≤ 128)
    "verifierName must be 1-128 UTF-16 units"
  require (0 < config.requestValidityMs.toInt ∧ config.requestValidityMs.toInt ≤ maxValidityMs)
    ("requestValidityMs must be between 1 and " ++ toString maxValidityMs)

/-- The request as the verifier issues it under this configuration. -/
def authRequest (config : AgentConfig) (request : AuthRequest) : AuthRequest :=
  { request with
    verifierId := config.verifierId
    verifierName := config.verifierName
    expiresAtMs := Verifier.saturatingAdd request.issuedAtMs
      (Verifier.clamp 1 (Int64.ofInt maxValidityMs) config.requestValidityMs) }

/-- A request the desktop may send and the phone takes. -/
def TakesRequest (origin : String) (request : AuthRequest) : Prop :=
  request.validate = .ok () ∧
    ∃ read, Mobile.PhoneAuthProtocolCodec.decodeRequest origin (.ofBytes request.encode) = .ok read

/-- A code the desktop may show and the phone reads. -/
def TakesBootstrap (bootstrap : ServerBootstrap) : Prop :=
  bootstrap.validate = .ok () ∧ ∃ read, Mobile.PairingBootstrap.parse (Mobile.trim bootstrap.toUri) = .ok read

/-- Every message that is built of the configuration passes, when it would under another one. -/
structure Operates (config : AgentConfig) : Prop where
  authRequest (origin : String) :
    Passes AgentConfig.authRequest (fun request => request.issuedAtMs.toInt + maxValidityMs ≤ Mobile.maxMilliseconds)
      (TakesRequest origin) config
  vaultList : PayloadPasses (fun name request => { request with verifierName := name })
    ListRequest.validate ListRequest.encode Mobile.VaultListRequest.decode config.verifierName
  vaultFetch : PayloadPasses (fun name request => { request with verifierName := name })
    FetchRequest.validate FetchRequest.encode Mobile.VaultFetchRequest.decode config.verifierName
  vaultCreate : PayloadPasses (fun name request => { request with verifierName := name })
    CreateRequest.validate CreateRequest.encode Mobile.VaultCreateRequest.decode config.verifierName
  vaultUpdate : PayloadPasses (fun name request => { request with verifierName := name })
    UpdateRequest.validate UpdateRequest.encode Mobile.VaultUpdateRequest.decode config.verifierName
  vaultDelete : PayloadPasses (fun name request => { request with verifierName := name })
    DeleteRequest.validate DeleteRequest.encode Mobile.VaultDeleteRequest.decode config.verifierName
  lockerWrap : PayloadPasses (fun name request => { request with verifierName := name })
    WrapRequest.validate WrapRequest.encode Mobile.LockerWrapRequest.decode config.verifierName
  lockerUnwrap : PayloadPasses (fun name request => { request with verifierName := name })
    UnwrapRequest.validate UnwrapRequest.encode Mobile.LockerUnwrapRequest.decode config.verifierName
  luksEnroll : PayloadPasses (fun name request => { request with verifierName := name })
    EnrollRequest.validate EnrollRequest.encode Mobile.LuksEnrollRequest.decode config.verifierName
  luksUnlock : PayloadPasses (fun name request => { request with verifierName := name })
    UnlockRequest.validate UnlockRequest.encode Mobile.LuksUnlockRequest.decode config.verifierName
  permissionSync : PayloadPasses (fun name request => { request with verifierName := name })
    SyncRequest.validate SyncRequest.encode Mobile.PermissionSyncRequest.decode config.verifierName
  sshSign : PayloadPasses (fun name request => { request with verifierName := name })
    Protocol.SshPayload.SignRequest.validate Protocol.SshPayload.SignRequest.encode Mobile.SshSignRequest.decode config.verifierName
  bootstrap : Passes (fun id bootstrap => { bootstrap with verifierId := id }) (fun _ => True) TakesBootstrap
    config.verifierId
  enrolment : Passes
    (fun id enrolment => { enrolment with credentialId := Mobile.credentialIdFor id enrolment.purpose })
    (fun _ => True) Mobile.Enrolment.Delivered config.verifierId

/-- A name and an id that every receiver takes. -/
structure Plain (config : AgentConfig) : Prop where
  name : Named 64 config.verifierName
  unmarked : marked config.verifierName = false
  id : Named 47 config.verifierId
  separators : '&' ∉ config.verifierId.toList ∧ '=' ∉ config.verifierId.toList

end AgentConfig

end Agent

namespace Initrd

/-- The arguments that are checked before anything is read. -/
structure Args where
  volume : Option String
  verifierId : Option String
  verifierName : Option String

/-- What the unlock is asked with. -/
structure Boot where
  volume : String
  verifierId : String
  verifierName : String
  deriving DecidableEq

/-- The checks at the head of `run`. Each failure is a usage error. -/
def Args.check (args : Args) : Except String Boot := do
  let volume ← okOr "--volume is required" args.volume
  let verifierId ← okOr "--verifier-id is required" args.verifierId
  let verifierName ← okOr "--verifier-name is required" args.verifierName
  require (verifierId ≠ "" ∧ (utf8 verifierId).length ≤ 64) "--verifier-id must contain 1 to 64 bytes"
  require (Protocol.blank verifierName = false ∧ (utf8 verifierName).length ≤ 255)
    "--verifier-name must contain 1 to 255 bytes"
  require (Protocol.blank volume = false ∧ (utf8 volume).length ≤ 255) "--volume must contain 1 to 255 bytes"
  return ⟨volume, verifierId, verifierName⟩

namespace Boot

/-- What is asked of the phone passes, and so does the bootstrap its connection is greeted with. -/
structure Operates (boot : Boot) : Prop where
  unlock : PayloadPasses (fun (boot : Boot) request =>
      { request with verifierName := boot.verifierName, volumeName := boot.volume })
    UnlockRequest.validate UnlockRequest.encode Mobile.LuksUnlockRequest.decode boot
  bootstrap : Passes (fun id (bootstrap : ServerBootstrap) => { bootstrap with verifierId := id, endpoint := "" })
    (fun _ => True) (fun bootstrap => bootstrap.validate = .ok ()) boot.verifierId

structure Plain (boot : Boot) : Prop where
  name : Mobile.blank boot.verifierName = false ∧ marked boot.verifierName = false
  volume : Mobile.blank boot.volume = false ∧ marked boot.volume = false
  separators : '&' ∉ boot.verifierId.toList ∧ '=' ∉ boot.verifierId.toList

end Boot

end Initrd

section Payloads
variable {N M P : Type} {view : View M P} {put : N → M → M} {fine : N → Prop}
  {limit : Nat} {refused : Mobile.PayloadRefusals} {body encode : M → Bytes} {parse : Parse ProtocolError M}
  {read : Fallible Mobile.CborReader Thrown P} {write : P → Except Mobile.Refusal Bytes}
  {validate : M → Except ProtocolError Unit} {named : M → List String} {fields schema : UInt64}

/-- A message that suits the phone with some other value in its place suits it with any that is fine. -/
def Carries (view : View M P) (put : N → M → M) (fine : N → Prop) : Prop :=
  ∀ own other message, fine own → view.Suits (put other message) → view.Suits (put own message)

theorem Carries.passes (carries : Carries view put fine) (faithful : view.Faithful limit body encode read write)
    (spelled : ∀ message, encode message = Writer.array fields ++ (Writer.uint schema ++ body message))
    (reads : ∀ message, Parse.Reads Protocol.wireLimit parse (body message) message)
    (arity : fields.toNat < 2 ^ 63) (early : schema.toNat < 2 ^ 63) (small : limit < 2 ^ 61) {own : N}
    (fits : ∀ message, view.good message → (encode message).length ≤ maxApplicationPayloadBytes →
      (encode message).length ≤ limit)
    (valid : ∀ other message, validate (put other message) = .ok () → view.good (put own message) →
      (encode (put own message)).length ≤ maxApplicationPayloadBytes → validate (put own message) = .ok ())
    (good : fine own) :
    PayloadPasses put validate encode (Mobile.decodePayload limit refused (Int64.ofNat fields.toNat)
      (Int64.ofNat schema.toNat) read write) own := by
  intro other message ⟨passed, run⟩ room
  have taken (message : M) : (∃ record, Mobile.decodePayload limit refused (Int64.ofNat fields.toNat)
      (Int64.ofNat schema.toNat) read write (.ofBytes (encode message)) = .ok record) ↔ _ :=
    faithful.read_iff spelled reads arity early small message
  have suits := carries own other message good ((taken _).mp run).2
  exact ⟨valid other message passed suits.good room, (taken _).mpr ⟨fits _ suits.good room, suits⟩⟩

/-- The same where the phone checks what the desktop checks. -/
theorem Carries.passes_of_stricter (carries : Carries view put fine)
    (faithful : view.Faithful maxApplicationPayloadBytes body encode read write)
    (stricter : view.Stricter maxApplicationPayloadBytes encode validate named)
    (spelled : ∀ message, encode message = Writer.array fields ++ (Writer.uint schema ++ body message))
    (reads : ∀ message, Parse.Reads Protocol.wireLimit parse (body message) message)
    (arity : fields.toNat < 2 ^ 63) (early : schema.toNat < 2 ^ 63) {own : N}
    (good : fine own) :
    PayloadPasses put validate encode (Mobile.decodePayload maxApplicationPayloadBytes refused
      (Int64.ofNat fields.toNat) (Int64.ofNat schema.toNat) read write) own :=
  carries.passes faithful spelled reads arity early (by decide) (fun _ _ size => size)
    (fun _ _ _ checked size => ((stricter _ size).mp checked).1) good

end Payloads

namespace Agent.AgentConfig
variable {config : AgentConfig}

/-- A name every payload but that of a signature takes. -/
def Fine (name : String) : Prop := Named 255 name ∧ marked name = false

theorem Plain.fine (plain : config.Plain) : Fine config.verifierName :=
  ⟨⟨plain.name.1, plain.name.2.trans (by decide)⟩, plain.unmarked⟩

theorem first_unmarked {own other : String} {rest : List String} (fine : marked own = false)
    (unmarked : ∀ text ∈ other :: rest, marked text = false) : ∀ text ∈ own :: rest, marked text = false :=
  List.forall_mem_cons.mpr ⟨fine, (List.forall_mem_cons.mp unmarked).2⟩

theorem vaultList_carries : Carries Mobile.VaultListRequest.view (fun name request => { request with verifierName := name }) Fine :=
  fun _ _ _ fine suits => ⟨suits.held, ⟨fine.1, suits.good.2⟩, first_unmarked fine.2 suits.unmarked⟩

theorem vaultFetch_carries : Carries Mobile.VaultFetchRequest.view (fun name request => { request with verifierName := name }) Fine :=
  fun _ _ _ fine suits => ⟨suits.held, ⟨fine.1, suits.good.2⟩, first_unmarked fine.2 suits.unmarked⟩

theorem vaultCreate_carries : Carries Mobile.VaultCreateRequest.view (fun name request => { request with verifierName := name }) Fine :=
  fun _ _ _ fine suits => ⟨suits.held, ⟨fine.1, suits.good.2⟩, first_unmarked fine.2 suits.unmarked⟩

theorem vaultUpdate_carries : Carries Mobile.VaultUpdateRequest.view (fun name request => { request with verifierName := name }) Fine :=
  fun _ _ _ fine suits => ⟨suits.held, ⟨fine.1, suits.good.2⟩, first_unmarked fine.2 suits.unmarked⟩

theorem vaultDelete_carries : Carries Mobile.VaultDeleteRequest.view (fun name request => { request with verifierName := name }) Fine :=
  fun _ _ _ fine suits => ⟨suits.held, ⟨fine.1, suits.good.2⟩, first_unmarked fine.2 suits.unmarked⟩

theorem lockerWrap_carries : Carries Mobile.LockerWrapRequest.view (fun name request => { request with verifierName := name }) Fine :=
  fun _ _ _ fine suits => ⟨suits.held, ⟨fine.1, suits.good.2⟩, first_unmarked fine.2 suits.unmarked⟩

theorem lockerUnwrap_carries : Carries Mobile.LockerUnwrapRequest.view (fun name request => { request with verifierName := name }) Fine :=
  fun _ _ _ fine suits => ⟨suits.held, ⟨fine.1, suits.good.2⟩, first_unmarked fine.2 suits.unmarked⟩

theorem luksEnroll_carries : Carries Mobile.LuksEnrollRequest.view (fun name request => { request with verifierName := name }) Fine :=
  fun _ _ _ fine suits => ⟨suits.held, ⟨⟨fine.1, suits.good.1.2⟩, suits.good.2⟩, first_unmarked fine.2 suits.unmarked⟩

theorem luksUnlock_carries : Carries Mobile.LuksUnlockRequest.view (fun name request => { request with verifierName := name }) Fine :=
  fun _ _ _ fine suits => ⟨suits.held, ⟨⟨fine.1, suits.good.1.2⟩, suits.good.2⟩, first_unmarked fine.2 suits.unmarked⟩

/-- A signature's payload takes fewer units than the others, and blank names. -/
theorem sshSign_carries : Carries Mobile.SshSignRequest.view (fun name request => { request with verifierName := name })
    fun name => (name ≠ "" ∧ utf16Len name ≤ 64) ∧ marked name = false :=
  fun _ _ _ fine suits => ⟨suits.held, ⟨fine.1, suits.good.2⟩, first_unmarked fine.2 suits.unmarked⟩

theorem chars_le_utf16Len (text : String) : text.toList.length ≤ utf16Len text := by
  rw [utf16Len]
  induction text.toList with
  | nil => exact Nat.le_refl _
  | cons c rest ih =>
    rw [List.length_cons, List.map_cons, List.sum_cons]
    have units : 1 ≤ if c.val.toNat < 0x10000 then 1 else 2 := by
      split <;> decide
    omega

/-- The desktop counts characters of the name, of which there are no more than units. -/
theorem sign_validate {name other : String} {request : Protocol.SshPayload.SignRequest} (units : name ≠ "" ∧ utf16Len name ≤ 64)
    (valid : Protocol.SshPayload.SignRequest.validate { request with verifierName := other } = .ok ()) :
    Protocol.SshPayload.SignRequest.validate { request with verifierName := name } = .ok () := by
  have chars := chars_le_utf16Len name
  simp only [Protocol.SshPayload.SignRequest.validate, Protocol.SshPayload.checkName, except_bind_eq_ok, except_require_eq_ok,
    exists_const] at valid ⊢
  exact ⟨⟨units.1, by omega⟩, valid.2⟩

/-- A validity the configuration allows is what the request gets. -/
theorem validity_added {issuedAt validity : Int64} (allowed : 0 < validity.toInt ∧ validity.toInt ≤ maxValidityMs)
    (room : issuedAt.toInt + maxValidityMs ≤ Mobile.maxMilliseconds) :
    (Verifier.saturatingAdd issuedAt (Verifier.clamp 1 (Int64.ofInt maxValidityMs) validity)).toInt =
      issuedAt.toInt + validity.toInt := by
  have least := issuedAt.le_toInt
  have one : (1 : Int64).toInt = 1 := rfl
  have most : (Int64.ofInt maxValidityMs).toInt = 120_000 := by decide
  unfold Mobile.maxMilliseconds maxValidityMs at *
  have clamped : Verifier.clamp 1 (Int64.ofInt 120_000) validity = validity := by
    unfold Verifier.clamp
    rw [if_neg (by rw [Int64.lt_iff_toInt_lt]; omega), if_neg (by rw [Int64.lt_iff_toInt_lt, most]; omega)]
  rw [clamped, Verifier.saturatingAdd, Int64.toInt_ofInt_of_le (by omega) (by omega)]
  omega

theorem takesRequest_iff {origin : String} {request : AuthRequest} :
    TakesRequest origin request ↔ Mobile.Checked request ∧
      (∀ text ∈ Mobile.requestTexts request, Mobile.blank text.1 = false) ∧
      Mobile.DateTime.Reaches request.issuedAtMs ∧ Mobile.DateTime.Reaches request.expiresAtMs ∧
      ¬Mobile.blankOrLong origin 128 := by
  have octets (checked : Mobile.Checked request) : (Uint8List.ofBytes request.encode).octets = request.encode := by
    have size := Mobile.encode_length_le checked
    unfold Mobile.maxFrameBytes at size
    exact Uint8List.ofBytes_octets (by omega)
  constructor
  · intro ⟨valid, taken⟩
    have checked := Mobile.checked_of_validate valid
    exact ⟨checked, (Mobile.phone_takes_request_iff checked (octets checked)).mp taken⟩
  · intro ⟨checked, rest⟩
    exact ⟨Mobile.validate_of_checked checked, (Mobile.phone_takes_request_iff checked (octets checked)).mpr rest⟩

theorem validate_eq_ok : config.validate = .ok () ↔
    (Protocol.blank config.verifierId = false ∧ (utf8 config.verifierId).length ≤ 64) ∧
      (Protocol.blank config.verifierName = false ∧ utf16Len config.verifierName ≤ 128) ∧
      0 < config.requestValidityMs.toInt ∧ config.requestValidityMs.toInt ≤ maxValidityMs := by
  simp only [validate, except_bind_eq_ok, except_require_eq_ok, exists_const]

theorem authRequest_passes {origin : String} (valid : config.validate = .ok ())
    (name : Mobile.blank config.verifierName = false) (id : Mobile.blank config.verifierId = false) :
    Passes AgentConfig.authRequest (fun request => request.issuedAtMs.toInt + maxValidityMs ≤ Mobile.maxMilliseconds)
      (TakesRequest origin) config := by
  intro other request taken room
  obtain ⟨⟨idFilled, idSize⟩, ⟨nameFilled, nameUnits⟩, allowed⟩ := validate_eq_ok.mp valid
  obtain ⟨checked, filled, issuedAt, _, label⟩ := takesRequest_iff.mp taken
  have expires : (config.authRequest request).expiresAtMs.toInt =
      request.issuedAtMs.toInt + config.requestValidityMs.toInt := validity_added allowed room
  have texts := checked.texts
  simp only [Mobile.requestTexts, List.forall_mem_cons] at texts filled
  refine takesRequest_iff.mpr ⟨⟨checked.version, ?_, ?_⟩, ?_, issuedAt, ?_, label⟩
  · simp only [Mobile.requestTexts, List.forall_mem_cons]
    exact ⟨texts.1, ⟨idFilled, (utf16Len_le_utf8 _).trans idSize⟩, ⟨nameFilled, nameUnits⟩,
      texts.2.2.2⟩
  · rw [expires]
    change _ ∧ request.issuedAtMs.toInt + config.requestValidityMs.toInt - request.issuedAtMs.toInt ≤ 120_000
    unfold maxValidityMs at allowed
    change 0 < request.issuedAtMs.toInt + config.requestValidityMs.toInt - request.issuedAtMs.toInt ∧ _
    omega
  · simp only [Mobile.requestTexts, List.forall_mem_cons]
    exact ⟨filled.1, id, name, filled.2.2.2⟩
  · unfold Mobile.DateTime.Reaches at issuedAt ⊢
    rw [expires]
    unfold maxValidityMs at *
    dsimp only [authRequest] at issuedAt room
    omega

theorem permissionSync_passes (fine : Fine config.verifierName) :
    PayloadPasses (fun name (request : SyncRequest) => { request with verifierName := name })
      SyncRequest.validate SyncRequest.encode Mobile.PermissionSyncRequest.decode config.verifierName := by
  intro other request ⟨valid, taken⟩ room
  have octets {request : SyncRequest} (size : request.encode.length ≤ maxApplicationPayloadBytes) :
      (Uint8List.ofBytes request.encode).octets = request.encode := by
    unfold maxApplicationPayloadBytes at size
    exact Uint8List.ofBytes_octets (by omega)
  have checks := valid
  simp only [SyncRequest.validate, except_bind_eq_ok, Protocol.checkText_eq_ok, exists_const] at checks
  obtain ⟨_, _, set, size⟩ := checks
  have within := except_require_eq_ok.mp size
  obtain ⟨held, unmarked⟩ := (Mobile.PermissionSyncRequest.decode_accepts_iff valid (octets within)).mp taken
  have passed : SyncRequest.validate { request with verifierName := config.verifierName } = .ok () := by
    simp only [SyncRequest.validate, except_bind_eq_ok, Protocol.checkText_eq_ok, exists_const]
    exact ⟨(Mobile.named_iff.mp fine.1).1, (), set, except_require_eq_ok.mpr room⟩
  exact ⟨passed, (Mobile.PermissionSyncRequest.decode_accepts_iff passed (octets room)).mpr
    ⟨held, first_unmarked fine.2 unmarked⟩⟩

theorem bootstrap_passes {id : String} (size : id ≠ "" ∧ (utf8 id).length ≤ 64)
    (separators : '&' ∉ id.toList ∧ '=' ∉ id.toList) :
    Passes (fun id bootstrap => { bootstrap with verifierId := id }) (fun _ => True) TakesBootstrap id := by
  intro other bootstrap ⟨valid, read, run⟩ _
  have trimmed := Mobile.PairingBootstrap.trim_toUri { bootstrap with verifierId := other }
  rw [trimmed] at run
  have routable := Mobile.PairingBootstrap.routable_of_parse valid run
  have passed : ServerBootstrap.validate { bootstrap with verifierId := id } = .ok () := by
    simp only [ServerBootstrap.validate, except_bind_eq_ok, except_require_eq_ok, exists_const, List.forall_mem_cons,
      List.not_mem_nil, IsEmpty.forall_iff, implies_true, and_true] at valid ⊢
    exact ⟨valid.1, size, valid.2.2.1, valid.2.2.2.1, separators, valid.2.2.2.2.2⟩
  exact ⟨passed, _, (congrArg Mobile.PairingBootstrap.parse (Mobile.PairingBootstrap.trim_toUri _)).trans
    (Mobile.PairingBootstrap.parse_toUri passed routable)⟩

theorem enrolment_passes {id : String} (units : utf16Len id ≤ 47) :
    Passes (fun id enrolment => { enrolment with credentialId := Mobile.credentialIdFor id enrolment.purpose })
      (fun _ => True) Mobile.Enrolment.Delivered id := by
  intro other enrolment delivered _
  have valid := Mobile.Enrolment.delivered_iff.mp delivered
  obtain ⟨_, longest, size⟩ := Mobile.utf16Len_credentialIdFor id enrolment.purpose
  exact Mobile.Enrolment.delivered_iff.mpr ⟨valid.version, valid.deviceName,
    ⟨Mobile.credentialIdFor_filled _ _, by dsimp only; omega⟩, valid.algorithm, valid.publicKey⟩

/-- A configuration whose name and id are plain operates. -/
theorem Plain.operates (plain : config.Plain) (valid : config.validate = .ok ()) : config.Operates := by
  have fine := plain.fine
  obtain ⟨⟨_, size⟩, _⟩ := validate_eq_ok.mp valid
  have named : config.verifierName ≠ "" := Mobile.blank_of_whitespace plain.name.1
  have some : config.verifierId ≠ "" := Mobile.blank_of_whitespace plain.id.1
  constructor
  case authRequest => exact fun origin => authRequest_passes valid plain.name.1 plain.id.1
  case vaultList =>
    exact vaultList_carries.passes_of_stricter Mobile.VaultListRequest.faithful Mobile.VaultListRequest.stricter
      (fun _ => rfl) ListRequest.body_reads (by decide) (by decide) fine
  case vaultFetch =>
    exact vaultFetch_carries.passes_of_stricter Mobile.VaultFetchRequest.faithful Mobile.VaultFetchRequest.stricter
      (fun _ => rfl) FetchRequest.body_reads (by decide) (by decide) fine
  case vaultCreate =>
    exact vaultCreate_carries.passes_of_stricter Mobile.VaultCreateRequest.faithful Mobile.VaultCreateRequest.stricter
      (fun _ => rfl) CreateRequest.body_reads (by decide) (by decide) fine
  case vaultUpdate =>
    exact vaultUpdate_carries.passes_of_stricter Mobile.VaultUpdateRequest.faithful Mobile.VaultUpdateRequest.stricter
      (fun _ => rfl) UpdateRequest.body_reads (by decide) (by decide) fine
  case vaultDelete =>
    exact vaultDelete_carries.passes_of_stricter Mobile.VaultDeleteRequest.faithful Mobile.VaultDeleteRequest.stricter
      (fun _ => rfl) DeleteRequest.body_reads (by decide) (by decide) fine
  case lockerWrap =>
    exact lockerWrap_carries.passes_of_stricter Mobile.LockerWrapRequest.faithful Mobile.LockerWrapRequest.stricter
      (fun _ => rfl) WrapRequest.body_reads (by decide) (by decide) fine
  case lockerUnwrap =>
    exact lockerUnwrap_carries.passes_of_stricter Mobile.LockerUnwrapRequest.faithful
      Mobile.LockerUnwrapRequest.stricter (fun _ => rfl) UnwrapRequest.body_reads (by decide) (by decide) fine
  case luksEnroll =>
    exact luksEnroll_carries.passes_of_stricter Mobile.LuksEnrollRequest.faithful Mobile.LuksEnrollRequest.stricter
      (fun _ => rfl) EnrollRequest.body_reads (by decide) (by decide) fine
  case luksUnlock =>
    exact luksUnlock_carries.passes_of_stricter Mobile.LuksUnlockRequest.faithful Mobile.LuksUnlockRequest.stricter
      (fun _ => rfl) UnlockRequest.body_reads (by decide) (by decide) fine
  case permissionSync => exact permissionSync_passes fine
  case sshSign =>
    exact sshSign_carries.passes Mobile.SshSignRequest.faithful (fun _ => rfl) Protocol.SshPayload.SignRequest.body_reads (by decide)
      (by decide) (by decide) (fun _ good _ => Mobile.SshSignRequest.encode_le_of_good good)
      (fun _ _ checked _ _ => sign_validate ⟨named, plain.name.2⟩ checked) ⟨⟨named, plain.name.2⟩, plain.unmarked⟩
  case bootstrap => exact bootstrap_passes ⟨some, size⟩ plain.separators
  case enrolment => exact enrolment_passes plain.id.2

/-- A listing of the first page. -/
def firstPage (name : String) : ListRequest := ⟨name, ""⟩

def oneByte (name : String) : Protocol.SshPayload.SignRequest := ⟨name, "", [0]⟩

/-- A code for the desktop of some id. -/
def sampleBootstrap (id : String) : ServerBootstrap where
  sessionId := "s"
  nonce := Block.replicate 32 0
  verifierId := id
  verifierIdentityHash := Block.replicate 32 0
  endpoint := ""
  expiresAtMs := 1000
  purpose := .authorization

def sampleEnrolment (id : String) : Mobile.Enrolment where
  protocolVersion := 1
  deviceName := "Phone"
  credentialId := Mobile.credentialIdFor id .authorization
  algorithm := "ES256"
  publicKey := [4]
  keyKind := .software
  purpose := .authorization

/-- A configuration with nothing out of the ordinary. -/
def plainConfig : AgentConfig := ⟨"pc", "PC", 60_000⟩

theorem firstPage_length (name : String) : (firstPage name).encode.length ≤ 37 + 3 * utf16Len name := by
  have octets := utf8_length_le name
  have spelled := Writer.text_length_le name
  have cursor := Writer.text_length_le ""
  have empty : (utf8 "").length = 0 := by decide
  have count := Writer.head_length_le majorArray Protocol.Vault.listRequestFields
  have schema := Writer.head_length_le majorUint Protocol.Vault.vaultSchema
  simp only [firstPage, ListRequest.encode, ListRequest.body, Writer.array, Writer.uint, List.flatten_cons, List.flatten_nil,
    List.length_append, List.length_nil, Nat.add_zero]
  omega

theorem oneByte_length (name : String) : (oneByte name).encode.length ≤ 50 + 3 * utf16Len name := by
  have octets := utf8_length_le name
  have spelled := Writer.text_length_le name
  have destination := Writer.text_length_le ""
  have empty : (utf8 "").length = 0 := by decide
  have data := Writer.bytes_length_le [0]
  have count := Writer.head_length_le majorArray Protocol.SshPayload.signRequestFields
  have schema := Writer.head_length_le majorUint Protocol.SshPayload.sshSchema
  simp only [oneByte, Protocol.SshPayload.SignRequest.encode, Protocol.SshPayload.SignRequest.body, Writer.array,
    Writer.uint, List.flatten_cons, List.flatten_nil, List.length_append, List.length_nil, List.length_singleton,
    Nat.add_zero] at *
  omega

theorem plainConfig_requests : TakesRequest "tcp" (plainConfig.authRequest (Mobile.sudoRequest "reboot" 1000)) := by
  refine takesRequest_iff.mpr ⟨Mobile.checked_of_validate (by decide +kernel), by decide +kernel, ?_, ?_, by decide +kernel⟩
  · exact ⟨by decide +kernel, by decide +kernel⟩
  · exact ⟨by decide +kernel, by decide +kernel⟩

theorem sampleBootstrap_taken : TakesBootstrap (sampleBootstrap "pc") := by
  have valid : (sampleBootstrap "pc").validate = .ok () := by decide +kernel
  have routable : Mobile.PairingBootstrap.routableEndpoint "" = .ok "" := by decide
  refine ⟨valid, Mobile.PairingBootstrap.ofDesktop (sampleBootstrap "pc"), ?_⟩
  rw [Mobile.PairingBootstrap.trim_toUri]
  exact Mobile.PairingBootstrap.parse_toUri valid routable

theorem sampleEnrolment_delivered : (sampleEnrolment "pc").Delivered :=
  Mobile.Enrolment.delivered_iff.mpr (Mobile.Enrolment.validate_eq_ok.mp (by decide +kernel))

/-- Where every message passes, the name and the id are plain. -/
theorem Operates.plain (operates : config.Operates) (valid : config.validate = .ok ()) : config.Plain := by
  obtain ⟨_, ⟨_, nameUnits⟩, _⟩ := validate_eq_ok.mp valid
  have listed := operates.vaultList "PC" (firstPage "") ⟨by decide +kernel, ⟨"PC", ""⟩, by decide +kernel⟩
    ((firstPage_length config.verifierName).trans (by unfold maxApplicationPayloadBytes; omega))
  have signed := operates.sshSign "PC" (oneByte "") ⟨by decide +kernel, ⟨"PC", "", [0]⟩, by decide +kernel⟩
    ((oneByte_length config.verifierName).trans (by unfold maxApplicationPayloadBytes; omega))
  have asked := operates.authRequest "tcp" plainConfig (Mobile.sudoRequest "reboot" 1000) plainConfig_requests
    (by change (1000 : Int64).toInt + maxValidityMs ≤ Mobile.maxMilliseconds; decide +kernel)
  have paired := operates.bootstrap "pc" (sampleBootstrap "") sampleBootstrap_taken trivial
  have enrolled := operates.enrolment "pc" (sampleEnrolment "") sampleEnrolment_delivered trivial
  have listing := ((Mobile.VaultListRequest.faithful.read_iff (fun _ => rfl) ListRequest.body_reads (by decide)
    (by decide) (by decide) _).mp listed.2).2
  have signing := ((Mobile.SshSignRequest.faithful.read_iff (fun _ => rfl) Protocol.SshPayload.SignRequest.body_reads
    (by decide) (by decide) (by decide) _).mp signed.2).2
  have filled := (takesRequest_iff.mp asked).2.1
  simp only [Mobile.requestTexts, List.forall_mem_cons] at filled
  have separators := paired.1
  simp only [ServerBootstrap.validate, except_bind_eq_ok, except_require_eq_ok, exists_const, List.forall_mem_cons,
    List.not_mem_nil, IsEmpty.forall_iff, implies_true, and_true] at separators
  have credential : utf16Len (Mobile.credentialIdFor config.verifierId .authorization) ≤ 64 :=
    (Mobile.Enrolment.delivered_iff.mp enrolled).credentialId.2
  have units := (Mobile.utf16Len_credentialIdFor config.verifierId .authorization).2.2
  exact ⟨⟨listing.good.1.1, signing.good.1.2⟩, listing.unmarked _ List.mem_cons_self, ⟨filled.2.1, by omega⟩,
    separators.2.2.2.2.1⟩

theorem operates_iff (valid : config.validate = .ok ()) : config.Operates ↔ config.Plain :=
  ⟨fun operates => operates.plain valid, fun plain => plain.operates valid⟩

end Agent.AgentConfig

namespace Initrd.Boot
variable {args : Args} {boot : Boot}

theorem check_eq_ok : args.check = .ok boot ↔
    (args.volume = some boot.volume ∧ args.verifierId = some boot.verifierId ∧
        args.verifierName = some boot.verifierName) ∧
      (boot.verifierId ≠ "" ∧ (utf8 boot.verifierId).length ≤ 64) ∧
      (Protocol.blank boot.verifierName = false ∧ (utf8 boot.verifierName).length ≤ 255) ∧
      Protocol.blank boot.volume = false ∧ (utf8 boot.volume).length ≤ 255 := by
  simp only [Args.check, except_bind_eq_ok, okOr_eq_ok, except_require_eq_ok, except_pure_eq_ok, exists_const]
  constructor
  · rintro ⟨volume, first, id, second, name, third, idSize, nameSize, volumeSize, rfl⟩
    exact ⟨⟨first, second, third⟩, idSize, nameSize, volumeSize⟩
  · intro ⟨⟨first, second, third⟩, idSize, nameSize, volumeSize⟩
    exact ⟨_, first, _, second, _, third, idSize, nameSize, volumeSize, rfl⟩

/-- The name and the volume, as the phone takes them. -/
def Fine (boot : Boot) : Prop :=
  (Named 255 boot.verifierName ∧ Named 255 boot.volume) ∧ marked boot.verifierName = false ∧ marked boot.volume = false

theorem unlock_carries : Carries Mobile.LuksUnlockRequest.view
    (fun (boot : Boot) request => { request with verifierName := boot.verifierName, volumeName := boot.volume }) Fine :=
  fun _ _ _ fine suits => ⟨suits.held, ⟨fine.1, suits.good.2⟩,
    Agent.AgentConfig.first_unmarked fine.2.1 (List.forall_mem_cons.mpr ⟨fine.2.1,
      Agent.AgentConfig.first_unmarked fine.2.2 (List.forall_mem_cons.mp suits.unmarked).2⟩)⟩

/-- A request for the key of a volume. -/
def sampleUnlock (boot : Boot) : UnlockRequest where
  verifierName := boot.verifierName
  volumeName := boot.volume
  volumeBinding := Block.replicate 32 0
  credentialId := "c"
  wrapper := [1]

theorem sampleUnlock_length (boot : Boot) :
    (sampleUnlock boot).encode.length ≤ 200 + (utf8 boot.verifierName).length + (utf8 boot.volume).length := by
  have name := Writer.text_length_le boot.verifierName
  have volume := Writer.text_length_le boot.volume
  have credential := Writer.text_length_le "c"
  have one : (utf8 "c").length = 1 := by decide
  have binding := Writer.bytes_length_le (List.replicate 32 (0 : UInt8))
  have wrapper := Writer.bytes_length_le [1]
  have count := Writer.head_length_le majorArray Protocol.LuksPayload.unlockRequestFields
  have schema := Writer.head_length_le majorUint Protocol.LuksPayload.luksSchema
  simp only [sampleUnlock, Block.replicate, UnlockRequest.encode, UnlockRequest.body, Writer.array, Writer.uint, List.flatten_cons,
    List.flatten_nil, List.length_append, List.length_nil, List.length_singleton, List.length_replicate,
    Nat.add_zero] at *
  omega

theorem operates_iff (accepted : args.check = .ok boot) : boot.Operates ↔ boot.Plain := by
  obtain ⟨_, id, name, volume⟩ := check_eq_ok.mp accepted
  constructor
  · intro operates
    have asked := operates.unlock ⟨"v", "", "PC"⟩ (sampleUnlock ⟨"", "", ""⟩)
      ⟨by decide +kernel, ⟨"PC", "v", List.replicate 32 0, "c", [1]⟩, by decide +kernel⟩
      ((sampleUnlock_length boot).trans (by unfold maxApplicationPayloadBytes; omega))
    have asking := ((Mobile.LuksUnlockRequest.faithful.read_iff (fun _ => rfl) UnlockRequest.body_reads (by decide)
      (by decide) (by decide) _).mp asked.2).2
    have greeted := operates.bootstrap "pc" (Agent.AgentConfig.sampleBootstrap "")
      Agent.AgentConfig.sampleBootstrap_taken.1 trivial
    simp only [ServerBootstrap.validate, except_bind_eq_ok, except_require_eq_ok, exists_const, List.forall_mem_cons,
      List.not_mem_nil, IsEmpty.forall_iff, implies_true, and_true] at greeted
    have unmarked := List.forall_mem_cons.mp asking.unmarked
    exact ⟨⟨asking.good.1.1.1, unmarked.1⟩, ⟨asking.good.1.2.1, unmarked.2 _ List.mem_cons_self⟩,
      greeted.2.2.2.2.1⟩
  · intro plain
    have units := utf16Len_le_utf8
    have fine : Fine boot := ⟨⟨⟨plain.name.1, (units _).trans name.2⟩, plain.volume.1, (units _).trans volume.2⟩,
      plain.name.2, plain.volume.2⟩
    refine ⟨?_, ?_⟩
    · exact unlock_carries.passes_of_stricter Mobile.LuksUnlockRequest.faithful Mobile.LuksUnlockRequest.stricter
        (fun _ => rfl) UnlockRequest.body_reads (by decide) (by decide) fine
    · intro other bootstrap valid _
      simp only [ServerBootstrap.validate, except_bind_eq_ok, except_require_eq_ok, exists_const,
        List.forall_mem_cons, List.not_mem_nil, IsEmpty.forall_iff, implies_true, and_true] at valid ⊢
      exact ⟨valid.1, id, valid.2.2.1, valid.2.2.2.1, plain.separators, valid.2.2.2.2.2⟩

end Initrd.Boot

/-- A configuration that validates operates exactly when its name and its id are plain, and so does a boot whose
arguments are accepted. -/
theorem accepted_operates_iff {config : Agent.AgentConfig} {args : Initrd.Args} {boot : Initrd.Boot}
    (valid : config.validate = .ok ()) (accepted : args.check = .ok boot) :
    (config.Operates ↔ config.Plain) ∧ (boot.Operates ↔ boot.Plain) :=
  ⟨Agent.AgentConfig.operates_iff valid, Initrd.Boot.operates_iff accepted⟩

theorem plain_operates_iff :
    (Agent.AgentConfig.plainConfig.Operates ↔ Agent.AgentConfig.plainConfig.Plain) ∧
      (Initrd.Boot.Operates ⟨"nvme0n1p2", "pc", "PC"⟩ ↔ Initrd.Boot.Plain ⟨"nvme0n1p2", "pc", "PC"⟩) :=
  @accepted_operates_iff _ ⟨some "nvme0n1p2", some "pc", some "PC"⟩ _ (by decide +kernel) (by decide +kernel)

/-- A name of 65 letters. -/
def longName : String := String.ofList (List.replicate 65 'n')

/-- An id of 48 letters. -/
def longId : String := String.ofList (List.replicate 48 'i')

/-- The configuration is accepted, but with the long name no signature is asked for, and with the long id the phone
cannot answer the pairing for `authorization`. -/
theorem accepted_cannot_operate :
    Agent.AgentConfig.validate ⟨"pc", longName, 60_000⟩ = .ok () ∧
    ¬Agent.AgentConfig.Operates ⟨"pc", longName, 60_000⟩ ∧
    (Agent.AgentConfig.oneByte "PC").validate = .ok () ∧
    (Agent.AgentConfig.oneByte longName).validate = .error (.fieldTooLong "verifierName" 64 65) ∧
    Agent.AgentConfig.validate ⟨longId, "PC", 60_000⟩ = .ok () ∧
    ¬Agent.AgentConfig.Operates ⟨longId, "PC", 60_000⟩ ∧
    (Agent.AgentConfig.sampleEnrolment "pc").validate = .ok () ∧
    (Agent.AgentConfig.sampleEnrolment longId).validate =
      .error ⟨"credentialId is longer than 64 characters"⟩ := by
  refine ⟨by decide +kernel, fun operates => ?_, by decide +kernel, by decide +kernel, by decide +kernel,
    fun operates => ?_, by decide +kernel, by decide +kernel⟩
  · have plain := operates.plain (by decide +kernel)
    exact absurd plain.name.2 (by decide +kernel)
  · have plain := operates.plain (by decide +kernel)
    exact absurd plain.id.2 (by decide +kernel)

end BioAuth
