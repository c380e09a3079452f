import BioAuth.Mobile.Messages
import BioAuth.Mobile.Permissions

namespace BioAuth.Mobile
open BioAuth
open BioAuth.Protocol (Permission)

/-- What one credential of a paired computer may authorize, and which edit of it this is. -/
structure PermissionSet where
  revision : Int64
  permissions : List Permission

namespace PermissionSet

/-- Never edited on this side. -/
def never : PermissionSet := ⟨0, []⟩

/-- The set one edit later. -/
def edited (set : PermissionSet) (next : List Permission) : PermissionSet := ⟨set.revision + 1, next⟩

/-- The answer that carries the set. -/
def response (set : PermissionSet) : PermissionSyncResponse := ⟨set.revision, set.permissions⟩

end PermissionSet

/-- The sets that this phone has stored, by entry. -/
abbrev PermissionSets := String → Option PermissionSet

namespace PermissionSets

def entryKey (verifierId credentialId : String) : String := verifierId ++ " " ++ credentialId

def read (sets : PermissionSets) (verifierId credentialId : String) : PermissionSet :=
  (sets (entryKey verifierId credentialId)).getD .never

def write (sets : PermissionSets) (verifierId credentialId : String) (set : PermissionSet) : PermissionSets :=
  Function.update sets (entryKey verifierId credentialId) (some set)

theorem read_write (sets : PermissionSets) (verifierId credentialId : String) (set : PermissionSet) :
    (sets.write verifierId credentialId set).read verifierId credentialId = set := by
  rw [read, write, Function.update_self, Option.getD_some]

end PermissionSets

/-- The services a person can hand out from the phone. -/
def grantable : List String := ["sudo", "login", "vault", "locker", "ssh", "luks", "webauthn"]

/-- The services of a set, each once. -/
def PermissionSet.services (set : PermissionSet) : List String :=
  set.permissions.foldl (fun names permission =>
    if permission.service ∈ names then names else names ++ [permission.service]) []

/-- What the screen stores when a service is granted or taken away. -/
def toggled (set : PermissionSet) (service : String) (granted : Bool) : PermissionSet :=
  let services :=
    if granted then
      if service ∈ set.services then set.services else set.services ++ [service]
    else set.services.filter (· ≠ service)
  set.edited (services.map fun name => ⟨name, "*", "*", "*"⟩)

/-- How a store's write ends. -/
inductive WriteEnd
  | stored
  | storedAndThrew
  | threw

/-- What the platform makes of the calls on the store. -/
structure StoreWeather where
  readThrows : Bool
  write : WriteEnd

/-- The part of a session that answers for one credential of one computer. -/
structure PermissionService where
  verifierId : String
  credentialId : String

namespace PermissionService

/-- The set that stands: this phone's, or the one it was offered. -/
def settled (mine : PermissionSet) (offered : PermissionSyncRequest) : PermissionSet :=
  match reconcile mine.revision offered.revision true with
  | .mine => mine
  | .theirs => ⟨offered.revision, offered.permissions⟩

/-- `_frame`. -/
def reply (request : ApplicationFrame) (kind : ApplicationFrameKind) (payload : Bytes) : Except Refusal Bytes :=
  ApplicationFrame.encode { request with kind, payload }

/-- `_error`. -/
def refuse (request : ApplicationFrame) (code : ApplicationErrorCode) : Except Refusal Bytes := do
  reply request .error (← code.encode)

variable (service : PermissionService)

def adopt (weather : StoreWeather) (set : PermissionSet) : Fallible PermissionSets Unit Unit := fun sets =>
  match weather.write with
  | .stored => (.ok (), sets.write service.verifierId service.credentialId set)
  | .storedAndThrew => (.error (), sets.write service.verifierId service.credentialId set)
  | .threw => (.error (), sets)

/-- What is tried once a request is read. Whatever is thrown in it is caught. -/
def settle (weather : StoreWeather) (request : ApplicationFrame) (offered : PermissionSyncRequest) :
    Fallible PermissionSets Unit Bytes := do
  require (weather.readThrows = false) ()
  let mine := (← get).read service.verifierId service.credentialId
  let set := settled mine offered
  if reconcile mine.revision offered.revision true = .theirs then
    service.adopt weather set
  let payload ← set.response.encode.mapError fun _ => ()
  (reply request .response payload).mapError fun _ => ()

def answer (weather : StoreWeather) (request : ApplicationFrame) (offered : PermissionSyncRequest) :
    Fallible PermissionSets Thrown Bytes := fun sets =>
  match service.settle weather request offered sets with
  | (.ok raw, after) => (.ok raw, after)
  | (.error _, after) => ((refuse request .unavailable).mapError Thrown.refusal, after)

def handle (weather : StoreWeather) (clock : DateTime) (frame : Uint8List) (sessionBinding : Bytes) :
    Fallible PermissionSets Thrown Bytes := do
  let request ← ApplicationFrame.decode frame
  require (request.kind = .request ∧ request.sessionBinding = sessionBinding ∧ request.isExpiredAt clock = false)
    (formatException "permission frame from another session")
  match PermissionSyncRequest.decode (.ofBytes request.payload) with
  | .ok offered => service.answer weather request offered
  | .error (.refusal (.formatException _)) => refusing (refuse request .invalidRequest)
  | .error thrown => throw thrown

/-- The octets are those of an error. -/
def IsError (raw : Bytes) : Prop := ∃ frame : ApplicationFrame, frame.kind = .error ∧ frame.encode = .ok raw

theorem refuse_isError {request : ApplicationFrame} {code : ApplicationErrorCode} {raw : Bytes}
    (run : refuse request code = .ok raw) : IsError raw := by
  unfold refuse at run
  obtain ⟨_, _, encoded⟩ := except_bind_eq_ok.mp run
  exact ⟨_, rfl, encoded⟩

variable {service}

/-- Everything that is tried can do to the store, and what an answer it makes says. -/
theorem settle_cases {weather : StoreWeather} {request : ApplicationFrame} {offered : PermissionSyncRequest}
    {sets after : PermissionSets} {result : Except Unit Bytes}
    (run : service.settle weather request offered sets = (result, after)) :
    let set := settled (sets.read service.verifierId service.credentialId) offered
    (after = sets ∨ after = sets.write service.verifierId service.credentialId set) ∧
      ∀ raw, result = .ok raw → after.read service.verifierId service.credentialId = set ∧
        ∃ payload, set.response.encode = .ok payload ∧ reply request .response payload = .ok raw := by
  intro set
  -- What is left to do once the set that stands is stored.
  let rest : Fallible PermissionSets Unit Bytes := do
    let payload ← set.response.encode.mapError fun _ => ()
    (reply request .response payload).mapError fun _ => ()
  have ends (between : PermissionSets) (done : rest between = (result, after)) :
      after = between ∧ ∀ raw, result = .ok raw →
        ∃ payload, set.response.encode = .ok payload ∧ reply request .response payload = .ok raw := by
    rcases encoded : set.response.encode with refusal | payload
    · simp only [rest, encoded] at done
      cases done
      exact ⟨rfl, nofun⟩
    · simp only [rest, encoded] at done
      cases done
      exact ⟨rfl, fun raw same => ⟨payload, rfl, except_mapError_eq_ok.mp same⟩⟩
  unfold settle at run
  by_cases reads : weather.readThrows = false
  · rw [require, if_pos reads, Fallible.bind_run_ok _ (Fallible.pure_run _ sets),
      Fallible.bind_run_ok _ (Fallible.get_run sets)] at run
    dsimp only at run
    by_cases theirs : reconcile (sets.read service.verifierId service.credentialId).revision offered.revision true = .theirs
    · rw [if_pos theirs] at run
      rcases wrote : weather.write with _ | _ | _
      · have adopted : service.adopt weather set sets =
            (.ok (), sets.write service.verifierId service.credentialId set) := by
          rw [adopt, wrote]
        obtain ⟨same, raws⟩ := ends _ ((Fallible.bind_run_ok _ adopted).symm.trans run)
        rw [same]
        exact ⟨Or.inr rfl, fun raw found => ⟨PermissionSets.read_write _ _ _ _, raws raw found⟩⟩
      · have adopted : service.adopt weather set sets =
            (.error (), sets.write service.verifierId service.credentialId set) := by
          rw [adopt, wrote]
        cases (Fallible.bind_run_error _ adopted).symm.trans run
        exact ⟨Or.inr rfl, nofun⟩
      · have adopted : service.adopt weather set sets = (.error (), sets) := by
          rw [adopt, wrote]
        cases (Fallible.bind_run_error _ adopted).symm.trans run
        exact ⟨Or.inl rfl, nofun⟩
    · have mine : set = sets.read service.verifierId service.credentialId := by
        simp only [set, settled]
        split
        · rfl
        · rename_i other
          exact absurd other theirs
      rw [if_neg theirs] at run
      obtain ⟨same, raws⟩ := ends sets run
      rw [same]
      exact ⟨Or.inl rfl, fun raw found => ⟨mine.symm, raws raw found⟩⟩
  · rw [require, if_neg reads] at run
    cases run
    exact ⟨Or.inl rfl, nofun⟩

/-- Everything an answered frame can have done: it was refused and the store is as before, or it was read and settled. -/
theorem handle_cases {weather : StoreWeather} {clock : DateTime} {frame : Uint8List} {sessionBinding : Bytes}
    {sets after : PermissionSets} {result : Except Thrown Bytes}
    (run : service.handle weather clock frame sessionBinding sets = (result, after)) :
    (after = sets ∧ ∀ raw, result = .ok raw → IsError raw) ∨
      ∃ request offered, ApplicationFrame.decode frame = .ok request ∧
        PermissionSyncRequest.decode (.ofBytes request.payload) = .ok offered ∧
        (after = sets ∨ after = sets.write service.verifierId service.credentialId
          (settled (sets.read service.verifierId service.credentialId) offered)) ∧
        ∀ raw, result = .ok raw → IsError raw ∨
          after.read service.verifierId service.credentialId =
              settled (sets.read service.verifierId service.credentialId) offered ∧
            ∃ payload, (settled (sets.read service.verifierId service.credentialId) offered).response.encode = .ok payload ∧
              reply request .response payload = .ok raw := by
  unfold handle at run
  rcases decoded : ApplicationFrame.decode frame with thrown | request
  · rw [decoded] at run
    cases run
    exact Or.inl ⟨rfl, nofun⟩
  · rw [decoded, Fallible.bind_run_ok _ (Fallible.liftM_run _ sets)] at run
    by_cases mine : request.kind = .request ∧ request.sessionBinding = sessionBinding ∧
        request.isExpiredAt clock = false
    · rw [require, if_pos mine, Fallible.bind_run_ok _ (Fallible.pure_run _ sets)] at run
      rcases read : PermissionSyncRequest.decode (.ofBytes request.payload) with thrown | offered
      · rw [read] at run
        refine Or.inl ?_
        rcases thrown with (_ | message) | _ | _
        · cases run
          exact ⟨rfl, nofun⟩
        · cases run
          exact ⟨rfl, fun raw same => refuse_isError (except_mapError_eq_ok.mp same)⟩
        · cases run
          exact ⟨rfl, nofun⟩
        · cases run
          exact ⟨rfl, nofun⟩
      · rw [read] at run
        dsimp only at run
        refine Or.inr ⟨request, offered, rfl, read, ?_⟩
        unfold answer at run
        rcases tried : service.settle weather request offered sets with ⟨_ | raw, left⟩
        · obtain ⟨places, _⟩ := settle_cases tried
          rw [tried] at run
          cases run
          exact ⟨places, fun raw same => Or.inl (refuse_isError (except_mapError_eq_ok.mp same))⟩
        · obtain ⟨places, content⟩ := settle_cases tried
          rw [tried] at run
          cases run
          exact ⟨places, fun raw same => Or.inr (content raw (by rw [Except.ok.inj same]))⟩
    · rw [require, if_neg mine] at run
      cases run
      exact Or.inl ⟨rfl, nofun⟩

end PermissionService

end BioAuth.Mobile
