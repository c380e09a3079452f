import BioAuth.Agent.Exchange
import BioAuth.Protocol.Permissions
import BioAuth.Verifier.PairingRuns

namespace BioAuth.Agent
open BioAuth
open BioAuth.Protocol (Permission ProtocolError SyncRequest SyncResponse)
open BioAuth.Verifier (Kept PairedCredential PairedDevice PairingError PairingStore)

/-- `OPERATION_SYNC`. -/
def operationSync : String := "permissions.sync"

/-- Offers this side's set and returns the one that stands. -/
def PhonePermissions.sync {τ : Type} [SecureSession τ] (verifierName : String) (draws : Draws) (revision : UInt64)
    (permissions : List Permission) : Fallible τ VaultError SyncResponse := do
  let request : SyncRequest := { verifierName, revision, permissions }
  request.validate.mapError fun error => VaultError.protocol error.message
  let payload ← PhonePermissions.exchange draws operationSync request.encode
  let response ← (SyncResponse.decode payload).mapError fun error => VaultError.protocol error.message
  require (revision ≤ response.revision)
    (VaultError.protocol "the phone answered with an older permission revision than it was given")
  return response

/-- What the service refuses a call about permissions with. -/
inductive PermissionsError
  | unknownDevice (deviceId : String)
  | unknownCredential (credentialId deviceId : String)
  | invalidPermissions (error : ProtocolError)
  | noTransport (error : String)
  | unanswered (error : VaultError)
  | storeWriteFailed (error : PairingError)

/-- The code the error is reported under. -/
def PermissionsError.code : PermissionsError → String
  | .unknownDevice _ => "unknown-device"
  | .unknownCredential _ _ => "unknown-credential"
  | .invalidPermissions _ => "invalid-permissions"
  | .noTransport _ => "no-transport"
  | .unanswered .declined => "declined"
  | .unanswered .unavailable => "vault-unavailable"
  | .unanswered (.protocol _) => "protocol-error"
  | .storeWriteFailed _ => "store-write-failed"

/-- The first credential of an id, changed in its place. -/
def amendFirst (credentialId : String) (change : PairedCredential → PairedCredential) :
    List PairedCredential → List PairedCredential
  | [] => []
  | credential :: rest =>
    if credential.credentialId = credentialId then change credential :: rest
    else credential :: amendFirst credentialId change rest

def amend (credentialId : String) (change : PairedCredential → PairedCredential) (device : PairedDevice) : PairedDevice :=
  { device with credentials := amendFirst credentialId change device.credentials }

/-- `u64::saturating_add(1)`. -/
def nextRevision (revision : UInt64) : UInt64 := if revision.toNat + 1 < 2 ^ 64 then revision + 1 else revision

/-- The service's store, and the session that a call is given. -/
structure Settling (σ τ : Type) where
  kept : Kept σ
  session : τ

def onStore {σ τ ε ε' α : Type} (rename : ε → ε') (x : Fallible (Kept σ) ε α) : Fallible (Settling σ τ) ε' α :=
  fun s => ((x s.kept).1.mapError rename, { s with kept := (x s.kept).2 })

def onSession {σ τ ε ε' α : Type} (rename : ε → ε') (x : Fallible τ ε α) : Fallible (Settling σ τ) ε' α :=
  fun s => ((x s.session).1.mapError rename, { s with session := (x s.session).2 })

structure SyncPermissionsResult where
  revision : UInt64
  granted : Nat
  /-- False means the phone adopted this side's copy. -/
  changed : Bool

theorem amendFirst_find (credentialId : String) {change : PairedCredential → PairedCredential}
    (keeps : ∀ credential, (change credential).credentialId = credential.credentialId)
    (credentials : List PairedCredential) :
    (amendFirst credentialId change credentials).find? (fun credential => credential.credentialId = credentialId) =
      (credentials.find? fun credential => credential.credentialId = credentialId).map change := by
  induction credentials with
  | nil => rfl
  | cons credential rest ih =>
    unfold amendFirst
    by_cases named : credential.credentialId = credentialId
    · rw [if_pos named, List.find?_cons_of_pos, List.find?_cons_of_pos, Option.map_some]
      · simpa using named
      · simpa [keeps] using named
    · rw [if_neg named, List.find?_cons_of_neg, List.find?_cons_of_neg, ih]
      · simpa using named
      · simpa using named

/-- The credential that the store has, of a device. -/
def credentialOf (store : PairingStore) (deviceId credentialId : String) : Option PairedCredential :=
  (store.device deviceId).bind fun device => device.credential credentialId

/-- Putting an amended device in changes the credential, and leaves each device under its own id. -/
theorem credentialOf_put {store : PairingStore} (keyed : store.Keyed) {deviceId credentialId : String}
    {device : PairedDevice} {credential : PairedCredential} (known : store.device deviceId = some device)
    (held : device.credential credentialId = some credential) {change : PairedCredential → PairedCredential}
    (keeps : ∀ credential, (change credential).credentialId = credential.credentialId) :
    credentialOf (store.put (store.merged (amend credentialId change device))) deviceId credentialId =
      some (change credential) := by
  have named : (amend credentialId change device).deviceId = deviceId := keyed deviceId device known
  have first : (amend credentialId change device).credentials.find?
      (fun credential => credential.credentialId = credentialId) = some (change credential) := by
    rw [amend, amendFirst_find credentialId keeps, ← PairedDevice.credential, held, Option.map_some]
  have merged : (store.merged (amend credentialId change device)).credential credentialId = some (change credential) := by
    unfold PairingStore.merged PairedDevice.credential
    split
    · rw [List.find?_append, first, Option.some_or]
    · exact first
  rw [credentialOf, PairingStore.put_device, PairingStore.merged_deviceId, if_pos named, Option.bind_some, merged]

section Service
variable {σ : Type} [JsonText]

def lookup (store : PairingStore) (deviceId credentialId : String) :
    Except PermissionsError (PairedDevice × PairedCredential) := do
  let device ← okOr (PermissionsError.unknownDevice deviceId) (store.device deviceId)
  let credential ← okOr (PermissionsError.unknownCredential credentialId deviceId) (device.credential credentialId)
  return (device, credential)

/-- The credential with a set of its own. -/
def granted (permissions : List Permission) (revision : UInt64) (credential : PairedCredential) : PairedCredential :=
  { credential with permissions, permissionsRevision := revision }

/-- Replaces a credential's permissions. They are checked as a request that offers them would be, at revision zero. -/
def setPermissions (verifierName deviceId credentialId : String) (permissions : List Permission) :
    Fallible (Kept σ) PermissionsError Unit := do
  let store := (← get).store
  let found ← lookup store deviceId credentialId
  (SyncRequest.validate { verifierName, revision := 0, permissions }).mapError PermissionsError.invalidPermissions
  let amended := amend credentialId
    (fun credential => granted permissions (nextRevision credential.permissionsRevision) credential) found.1
  (Verifier.insert amended).mapError PermissionsError.storeWriteFailed

/-- Reconciles one credential's permissions with the phone's copy, over a session if there is one. -/
def syncPermissions {τ : Type} [SecureSession τ] (verifierName deviceId credentialId : String)
    (connected : Except String Unit) (draws : Draws) :
    Fallible (Settling σ τ) PermissionsError SyncPermissionsResult := do
  let store := (← get).kept.store
  let found ← lookup store deviceId credentialId
  connected.mapError PermissionsError.noTransport
  let answered ← onSession PermissionsError.unanswered
    (PhonePermissions.sync verifierName draws found.2.permissionsRevision found.2.permissions)
  let adopted : Bool := answered.revision ≠ found.2.permissionsRevision ∨ answered.permissions ≠ found.2.permissions
  let amended := amend credentialId (granted answered.permissions answered.revision) found.1
  onStore PermissionsError.storeWriteFailed (Verifier.insert amended)
  return { revision := answered.revision, granted := answered.permissions.length, changed := adopted }

omit [JsonText] in
theorem lookup_eq_ok {store : PairingStore} {deviceId credentialId : String} {found : PairedDevice × PairedCredential} :
    lookup store deviceId credentialId = .ok found ↔
      store.device deviceId = some found.1 ∧ found.1.credential credentialId = some found.2 := by
  simp only [lookup, except_bind_eq_ok, except_pure_eq_ok, okOr_eq_ok]
  constructor
  · intro ⟨_, known, _, held, same⟩
    rw [← same]
    exact ⟨known, held⟩
  · intro ⟨known, held⟩
    exact ⟨_, known, _, held, rfl⟩

omit [JsonText] in
theorem credentialOf_of_lookup {store : PairingStore} {deviceId credentialId : String}
    {found : PairedDevice × PairedCredential} (run : lookup store deviceId credentialId = .ok found) :
    credentialOf store deviceId credentialId = some found.2 := by
  obtain ⟨known, held⟩ := lookup_eq_ok.mp run
  rw [credentialOf, known, Option.bind_some, held]

/-- What an insertion of an amended device leaves of the credential, written or not. -/
theorem insert_amended {kept : Kept σ} (keyed : kept.store.Keyed) {deviceId credentialId : String}
    {found : PairedDevice × PairedCredential} (listed : lookup kept.store deviceId credentialId = .ok found)
    (change : PairedCredential → PairedCredential)
    (keeps : ∀ credential, (change credential).credentialId = credential.credentialId) :
    credentialOf (Verifier.insert (amend credentialId change found.1) kept).2.store deviceId credentialId =
        some (change found.2) ∨
      (Verifier.insert (amend credentialId change found.1) kept).2.store = kept.store ∧
        ∃ error, (Verifier.insert (amend credentialId change found.1) kept).1 = .error error := by
  obtain ⟨known, held⟩ := lookup_eq_ok.mp listed
  have changed := credentialOf_put keyed known held keeps
  have ends := Verifier.insert_ends (amend credentialId change found.1) kept
  rcases run : Verifier.insert (amend credentialId change found.1) kept with ⟨error | _, after⟩
  · rcases ends.bad_of_run run with ⟨_, same⟩ | ⟨_, _, store, _⟩
    · rw [same]
      exact Or.inr ⟨rfl, error, rfl⟩
    · rw [store]
      exact Or.inl changed
  · obtain ⟨_, store, _⟩ := ends.good_of_run run
    rw [store]
    exact Or.inl changed

/-- Everything a call that sets permissions can do. -/
theorem setPermissions_cases {kept after : Kept σ} (keyed : kept.store.Keyed)
    {verifierName deviceId credentialId : String} {permissions : List Permission}
    {result : Except PermissionsError Unit}
    (run : setPermissions verifierName deviceId credentialId permissions kept = (result, after)) :
    after.store.Keyed ∧
      ((∃ credential, credentialOf kept.store deviceId credentialId = some credential ∧
          SyncRequest.validate { verifierName, revision := 0, permissions } = .ok () ∧
          credentialOf after.store deviceId credentialId =
            some (granted permissions (nextRevision credential.permissionsRevision) credential)) ∨
        after.store = kept.store ∧ ∃ error, result = .error error) := by
  unfold setPermissions at run
  rw [Fallible.bind_run_ok _ (Fallible.get_run kept)] at run
  rcases listed : lookup kept.store deviceId credentialId with error | found
  · rw [listed] at run
    cases run
    exact ⟨keyed, Or.inr ⟨rfl, error, rfl⟩⟩
  · rw [listed, Fallible.bind_run_ok _ (Fallible.liftM_run _ kept)] at run
    rcases valid : SyncRequest.validate { verifierName, revision := 0, permissions } with error | _
    · rw [valid] at run
      cases run
      exact ⟨keyed, Or.inr ⟨rfl, _, rfl⟩⟩
    · let change (credential : PairedCredential) : PairedCredential :=
        granted permissions (nextRevision credential.permissionsRevision) credential
      rw [valid] at run
      replace run : Fallible.mapError PermissionsError.storeWriteFailed (Verifier.insert (amend credentialId change found.1)) kept =
        (result, after) := run
      rw [Fallible.mapError_run] at run
      cases run
      refine ⟨Verifier.insert_keyed _ keyed, ?_⟩
      rcases insert_amended keyed listed change fun _ => rfl with changed | ⟨same, error, failed⟩
      · exact Or.inl ⟨found.2, credentialOf_of_lookup listed, rfl, changed⟩
      · refine Or.inr ⟨same, .storeWriteFailed error, ?_⟩
        rw [failed]
        rfl

/-- Everything a call that settles permissions can do: it does not get as far as the phone, the phone gives it no answer
it takes, or the answer is stored, unless the insertion is refused. -/
theorem syncPermissions_cases {τ : Type} [SecureSession τ] {s after : Settling σ τ} (keyed : s.kept.store.Keyed)
    {verifierName deviceId credentialId : String} {connected : Except String Unit} {draws : Draws}
    {result : Except PermissionsError SyncPermissionsResult}
    (run : syncPermissions verifierName deviceId credentialId connected draws s = (result, after)) :
    after.kept.store.Keyed ∧
      ((after = s ∧ ∃ error, result = .error error) ∨
        ∃ credential answered, credentialOf s.kept.store deviceId credentialId = some credential ∧
          PhonePermissions.sync verifierName draws credential.permissionsRevision credential.permissions s.session =
            (answered, after.session) ∧
          match answered with
          | .error error => after.kept = s.kept ∧ result = .error (.unanswered error)
          | .ok response =>
            credentialOf after.kept.store deviceId credentialId =
                some (granted response.permissions response.revision credential) ∨
              after.kept.store = s.kept.store ∧ ∃ error, result = .error error) := by
  unfold syncPermissions at run
  rw [Fallible.bind_run_ok _ (Fallible.get_run s)] at run
  rcases listed : lookup s.kept.store deviceId credentialId with error | found
  · rw [listed] at run
    cases run
    exact ⟨keyed, Or.inl ⟨rfl, error, rfl⟩⟩
  · rw [listed, Fallible.bind_run_ok _ (Fallible.liftM_run _ s)] at run
    rcases connected with error | _
    · cases run
      exact ⟨keyed, Or.inl ⟨rfl, _, rfl⟩⟩
    · rcases settled : PhonePermissions.sync verifierName draws found.2.permissionsRevision found.2.permissions s.session
        with ⟨error | response, session⟩
      · have failed : onSession PermissionsError.unanswered (PhonePermissions.sync verifierName draws
            found.2.permissionsRevision found.2.permissions) s =
            ((.error (.unanswered error), { s with session }) : Except _ SyncResponse × Settling σ τ) := by
          rw [onSession, settled]
          rfl
        replace run : _ = (result, after) := (Fallible.bind_run_error _ failed).symm.trans run
        cases run
        exact ⟨keyed, Or.inr ⟨found.2, _, credentialOf_of_lookup listed, settled, rfl, rfl⟩⟩
      · let left : Settling σ τ := { s with session }
        let change := granted response.permissions response.revision
        have answered : onSession PermissionsError.unanswered (PhonePermissions.sync verifierName draws
            found.2.permissionsRevision found.2.permissions) s =
            ((.ok response, left) : Except _ SyncResponse × Settling σ τ) := by
          rw [onSession, settled]
          rfl
        replace run : _ = (result, after) := (Fallible.bind_run_ok _ answered).symm.trans run
        have stays := Verifier.insert_keyed (amend credentialId change found.1) keyed
        have changed := insert_amended keyed listed change fun _ => rfl
        rcases inserted : Verifier.insert (amend credentialId change found.1) s.kept with ⟨error | _, kept⟩
        · have stored : onStore PermissionsError.storeWriteFailed (Verifier.insert (amend credentialId change found.1))
              left = ((.error (.storeWriteFailed error), { left with kept }) : Except _ Unit × Settling σ τ) := by
            rw [onStore, inserted]
            rfl
          replace run : _ = (result, after) := (Fallible.bind_run_error _ stored).symm.trans run
          cases run
          rw [inserted] at stays changed
          refine ⟨stays, Or.inr ⟨found.2, .ok response, credentialOf_of_lookup listed, settled, ?_⟩⟩
          exact changed.imp_right fun ⟨same, _⟩ => ⟨same, _, rfl⟩
        · have stored : onStore PermissionsError.storeWriteFailed (Verifier.insert (amend credentialId change found.1))
              left = ((.ok (), { left with kept }) : Except _ Unit × Settling σ τ) := by
            rw [onStore, inserted]
            rfl
          replace run : _ = (result, after) := (Fallible.bind_run_ok _ stored).symm.trans run
          cases run
          rw [inserted] at stays changed
          refine ⟨stays, Or.inr ⟨found.2, .ok response, credentialOf_of_lookup listed, settled, ?_⟩⟩
          rcases changed with changed | ⟨_, _, failed⟩
          · exact Or.inl changed
          · cases failed

omit [JsonText] in
/-- Every way to a result passes an answer of the phone that is not older than what it was offered. -/
theorem PhonePermissions.sync_eq_ok {τ : Type} [SecureSession τ] {verifierName : String} {draws : Draws}
    {revision : UInt64} {permissions : List Permission} {before after : τ} {response : SyncResponse}
    (run : PhonePermissions.sync verifierName draws revision permissions before = (.ok response, after)) :
    SyncRequest.validate { verifierName, revision, permissions } = .ok () ∧
      (∃ payload, PhonePermissions.exchange draws operationSync
          (SyncRequest.encode { verifierName, revision, permissions }) before = (.ok payload, after) ∧
        SyncResponse.decode payload = .ok response) ∧
      revision ≤ response.revision := by
  unfold PhonePermissions.sync at run
  obtain ⟨_, valid, run⟩ := Fallible.liftM_bind_eq_ok.mp run
  obtain ⟨payload, mid, exchanged, run⟩ := Fallible.bind_eq_ok.mp run
  obtain ⟨answered, decoded, run⟩ := Fallible.liftM_bind_eq_ok.mp run
  obtain ⟨newer, run⟩ := Fallible.require_bind_eq_ok.mp run
  obtain ⟨same, rfl⟩ := Fallible.pure_eq_ok.mp run
  rw [← same]
  exact ⟨except_mapError_eq_ok.mp valid, ⟨payload, exchanged, except_mapError_eq_ok.mp decoded⟩, newer⟩

end Service

end BioAuth.Agent
