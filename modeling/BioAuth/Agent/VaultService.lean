import BioAuth.Agent.SshIdentities
import BioAuth.Agent.Vault

namespace BioAuth.Agent
open BioAuth
open BioAuth.Protocol (whitespace)
open BioAuth.Protocol.Vault (FetchRequest FetchResponse ItemKind ItemSummary ListResponse)
open BioAuth.Session (ServiceError)
open BioAuth.Verifier (PairingStore)

section Hosts

/-- The host in `authority[/path]`, lowercased, with userinfo and port removed. Userinfo ends at the last `@`. -/
def authorityHost (rest : List Char) : Option String :=
  let authority := rest.takeWhile fun c => c ≠ '/' && c ≠ '?' && c ≠ '#'
  let host := ((authority.reverse.takeWhile (· ≠ '@')).reverse).takeWhile (· ≠ ':')
  if host = [] ∨ host.any whitespace = true then none else some (String.ofList (host.map Char.toLower))

def isLoopbackHost (host : String) : Bool :=
  host = "localhost" || ".localhost".toList.isSuffixOf host.toList || host = "127.0.0.1"

/-- `strip_prefix`. -/
def stripPrefix (front : String) (value : List Char) : Option (List Char) :=
  if front.toList.isPrefixOf value then some (value.drop front.toList.length) else none

/-- The host of a page's origin. Plain `http` is filled on this machine only. -/
def originHost (value : String) : Option String :=
  match stripPrefix "https://" value.toList with
  | some rest => authorityHost rest
  | none => do
    let host ← authorityHost (← stripPrefix "http://" value.toList)
    if isLoopbackHost host then some host else none

/-- What follows the first `://`. -/
def afterScheme : List Char → Option (List Char)
  | ':' :: '/' :: '/' :: rest => some rest
  | _ :: rest => afterScheme rest
  | [] => none

/-- `str::trim`. -/
def trim (value : List Char) : List Char := ((value.dropWhile whitespace).reverse.dropWhile whitespace).reverse

/-- The host in the address field of a stored item. -/
def itemHost (value : String) : Option String :=
  let value := trim value.toList
  authorityHost ((afterScheme value).getD value)

end Hosts

section Clipboard

inductive ClipboardError
  | unavailable (why : String)
  | notText
  | ttlOutOfRange (minMs maxMs : Nat)
  | unsupported

namespace ClipboardError

def message : ClipboardError → String
  | unavailable why => "clipboard unavailable: " ++ why
  | notText => "secret is not valid UTF-8 text"
  | ttlOutOfRange minMs maxMs => s!"clear timeout must be between {minMs}ms and {maxMs}ms"
  | unsupported => "no clipboard integration on this platform"

/-- The code the tray sees. -/
def code : ClipboardError → String
  | ttlOutOfRange _ _ => "bad-params"
  | notText => "protocol-error"
  | unavailable _ | unsupported => "clipboard-unavailable"

def toService (error : ClipboardError) : ServiceError := ⟨error.code, error.message⟩

end ClipboardError

/-- `MIN_TTL`, `MAX_TTL` and `DEFAULT_TTL`, in milliseconds. -/
def minTtl : Nat := 5_000

def maxTtl : Nat := 600_000

def defaultTtl : Nat := 45_000

structure CopyOutcome where
  clearsAtMs : Int
  historyExcluded : Bool
  cloudExcluded : Bool

/-- The platform's clipboard: what setting its text brings, the clock, and whether memory can be locked. -/
structure Clipboard where
  setText : String → Except ClipboardError (Bool × Bool)
  epochMs : Int
  lockable : Bool

/-- Puts a secret on the clipboard, which then holds it. -/
def copySecret (clipboard : Clipboard) (secret : Bytes) (ttl : Nat) : Fallible (Option String) ClipboardError CopyOutcome := do
  require (minTtl ≤ ttl ∧ ttl ≤ maxTtl) (ClipboardError.ttlOutOfRange minTtl maxTtl)
  let text ← okOr ClipboardError.notText (fromUtf8 secret)
  let (history, cloud) ← clipboard.setText text
  set (some text)
  return ⟨clipboard.epochMs + ttl, history, cloud⟩

/-- The clipboard lifetime a caller asked for, refused early if it is impossible. -/
def clipboardTtl (clearAfterMs : Option UInt64) : Except ServiceError Nat := do
  let ttl := (clearAfterMs.map UInt64.toNat).getD defaultTtl
  require (minTtl ≤ ttl ∧ ttl ≤ maxTtl)
    (ServiceError.mk "bad-params" s!"clearAfterMs must be between {minTtl}ms and {maxTtl}ms")
  return ttl

theorem clipboardTtl_within {clearAfterMs : Option UInt64} {ttl : Nat} (run : clipboardTtl clearAfterMs = .ok ttl) :
    minTtl ≤ ttl ∧ ttl ≤ maxTtl := by
  simp only [clipboardTtl, except_bind_eq_ok, except_require_eq_ok, except_pure_eq_ok, exists_const] at run
  obtain ⟨within, rfl⟩ := run
  exact within

end Clipboard

namespace VaultError

def message : VaultError → String
  | declined => "the phone declined the vault request"
  | unavailable => "the vault is not available on the phone"
  | protocol reason => "vault protocol error: " ++ reason

def code : VaultError → String
  | declined => "declined"
  | unavailable => "vault-unavailable"
  | protocol _ => "protocol-error"

/-- `vault_error`. -/
def toService (error : VaultError) : ServiceError := ⟨error.code, error.message⟩

end VaultError

structure VaultCopyParams where
  itemId : String
  expectedRevision : UInt64
  credentialId : Option String
  clearAfterMs : Option UInt64

/-- It has no field that could carry the secret. -/
structure VaultCopyResult where
  length : Nat
  clearsAtMs : Int
  historyExcluded : Bool
  cloudExcluded : Bool
  memoryLocked : Bool

structure VaultFillParams where
  origin : String
  credentialId : Option String

structure VaultFillResult where
  password : String
  username : String
  deriving DecidableEq

section Service
variable {τ : Type} [SecureSession τ]

/-- What each connect of one call brings, in order, by device and credential. -/
abbrev Dials (τ : Type) := String → String → Nat → Except String (τ × Draws)

def noTransport (error : String) : ServiceError := ⟨"no-transport", error⟩

/-- `walk_vault`: the first page is read on a session that is open already. -/
def walkVault (verifierName : String) (first : τ × Draws) (connect : Nat → Except String (τ × Draws)) :
    Except VaultError (List ItemSummary) × Nat :=
  listAll verifierName fun opened => if opened = 0 then .ok first else (connect opened).mapError fun _ => .unavailable

/-- Puts one stored secret on the clipboard. -/
def vaultCopy (store : PairingStore) (verifierName : String) (dials : Dials τ) (clipboard : Clipboard)
    (params : VaultCopyParams) : Fallible (Option String) ServiceError VaultCopyResult := do
  let ttl ← clipboardTtl params.clearAfterMs
  let (deviceId, credentialId) ← selectServiceCredential store "vault" "personal vault" params.credentialId
  let (session, draws) ← (dials deviceId credentialId 0).mapError noTransport
  let fetched ← (PhoneVault.fetch verifierName draws params.itemId session).1.mapError VaultError.toService
  require (fetched.revision = params.expectedRevision)
    (ServiceError.mk "revision-conflict" "the item changed on the phone; refresh the list and copy again")
  let secret := utf8 fetched.secret
  let outcome ← (copySecret clipboard secret ttl).mapError ClipboardError.toService
  return ⟨secret.length, outcome.clearsAtMs, outcome.historyExcluded, outcome.cloudExcluded, clipboard.lockable⟩

/-- The rows of a listing that are logins for one host. -/
def matched (host : String) (items : List ItemSummary) : List ItemSummary :=
  items.filter fun item => item.kind = .login && itemHost item.uri = some host

/-- Hands one site's password to the browser. -/
def vaultFill (store : PairingStore) (verifierName : String) (dials : Dials τ) (params : VaultFillParams) :
    Except ServiceError VaultFillResult := do
  let host ← okOr ⟨"bad-params", "origin is not a fillable origin"⟩ (originHost params.origin)
  let (deviceId, credentialId) ← selectServiceCredential store "vault" "personal vault" params.credentialId
  let first ← (dials deviceId credentialId 0).mapError noTransport
  let listed := walkVault verifierName first (dials deviceId credentialId)
  let items ← listed.1.mapError VaultError.toService
  match matched host items with
  | [item] =>
    let (session, draws) ← (dials deviceId credentialId listed.2).mapError noTransport
    let fetched ← (PhoneVault.fetch verifierName draws item.id session).1.mapError VaultError.toService
    return ⟨fetched.secret, item.username⟩
  | [] => .error ⟨"not-found", "no vault item for this site"⟩
  | several => .error ⟨"ambiguous", s!"{several.length} accounts for this site; copy the one you want from the tray"⟩

/-- The reply to the request for one item carries this. -/
structure Fetched (verifierName itemId : String) (session : τ) (draws : Draws) (fetched : FetchResponse) : Prop where
  valid : FetchRequest.validate { verifierName, itemId } = .ok ()
  answered : ∃ answer after,
    PhoneVault.exchange draws operationFetch (FetchRequest.encode { verifierName, itemId }) session = (.ok answer, after) ∧
      FetchResponse.decode answer = .ok fetched

theorem fetch_eq_ok {verifierName itemId : String} {session : τ} {draws : Draws} {fetched : FetchResponse} :
    (PhoneVault.fetch verifierName draws itemId session).1 = .ok fetched ↔
      Fetched verifierName itemId session draws fetched := by
  have run : (PhoneVault.fetch verifierName draws itemId session).1 = .ok fetched ↔
      ∃ after, PhoneVault.fetch verifierName draws itemId session = (.ok fetched, after) :=
    ⟨fun first => ⟨_, Prod.ext first rfl⟩, fun ⟨_, both⟩ => congrArg Prod.fst both⟩
  rw [run]
  unfold PhoneVault.fetch
  simp only [Fallible.bind_eq_ok, Fallible.liftM_eq_ok, except_mapError_eq_ok]
  constructor
  · rintro ⟨after, _, _, ⟨valid, rfl⟩, answer, _, exchanged, decoded, rfl⟩
    exact ⟨valid, answer, _, exchanged, decoded⟩
  · rintro ⟨valid, answer, after, exchanged, decoded⟩
    exact ⟨after, (), session, ⟨valid, rfl⟩, answer, after, exchanged, decoded, rfl⟩

theorem Fetched.unique {verifierName itemId : String} {session : τ} {draws : Draws} {fetched other : FetchResponse}
    (reply : Fetched verifierName itemId session draws fetched)
    (again : Fetched verifierName itemId session draws other) : fetched = other :=
  Except.ok.inj ((fetch_eq_ok.mpr reply).symm.trans (fetch_eq_ok.mpr again))

/-- The session a copy fetches on, once its parameters are taken and the phone is reached. -/
def CopiesOn (store : PairingStore) (dials : Dials τ) (params : VaultCopyParams) (ttl : Nat) (session : τ) (draws : Draws) :
    Prop :=
  clipboardTtl params.clearAfterMs = .ok ttl ∧
    ∃ deviceId credentialId, selectServiceCredential store "vault" "personal vault" params.credentialId =
        .ok (deviceId, credentialId) ∧
      dials deviceId credentialId 0 = .ok (session, draws)

theorem copySecret_eq_ok {clipboard : Clipboard} {secret : String} {ttl : Nat} {outcome : CopyOutcome}
    {before after : Option String} :
    copySecret clipboard (utf8 secret) ttl before = (.ok outcome, after) ↔
      (minTtl ≤ ttl ∧ ttl ≤ maxTtl) ∧
        ∃ excluded, clipboard.setText secret = .ok excluded ∧
          outcome = ⟨clipboard.epochMs + ttl, excluded.1, excluded.2⟩ ∧ after = some secret := by
  unfold copySecret
  simp only [Fallible.bind_eq_ok, Fallible.require_eq_ok, Fallible.liftM_eq_ok, okOr_eq_ok, fromUtf8_utf8,
    Option.some.injEq, Fallible.pure_eq_ok]
  constructor
  · rintro ⟨_, _, ⟨within, rfl⟩, _, _, ⟨rfl, rfl⟩, excluded, _, ⟨taken, rfl⟩, _, _, put, rfl, rfl⟩
    cases put
    exact ⟨within, excluded, taken, rfl, rfl⟩
  · rintro ⟨within, excluded, taken, rfl, rfl⟩
    exact ⟨(), before, ⟨within, rfl⟩, secret, before, ⟨rfl, rfl⟩, excluded, before, ⟨taken, rfl⟩, (), some secret, rfl, rfl, rfl⟩

/-- A copy that succeeds has put on the clipboard what the reply carries, at the revision that was asked for. -/
theorem vaultCopy_eq_ok {store : PairingStore} {verifierName : String} {dials : Dials τ} {clipboard : Clipboard}
    {params : VaultCopyParams} {before after : Option String} :
    (∃ result, vaultCopy store verifierName dials clipboard params before = (.ok result, after)) ↔
      ∃ ttl session draws fetched, CopiesOn store dials params ttl session draws ∧
        Fetched verifierName params.itemId session draws fetched ∧ fetched.revision = params.expectedRevision ∧
        (∃ excluded, clipboard.setText fetched.secret = .ok excluded) ∧
        after = some fetched.secret := by
  unfold vaultCopy
  simp only [Fallible.bind_eq_ok, Fallible.require_eq_ok, Fallible.liftM_eq_ok, except_mapError_eq_ok,
    Fallible.mapError_eq_ok, fetch_eq_ok, copySecret_eq_ok, Fallible.pure_eq_ok]
  constructor
  · rintro ⟨_, ttl, _, ⟨timed, rfl⟩, ⟨deviceId, credentialId⟩, _, ⟨selected, rfl⟩, ⟨session, draws⟩, _, ⟨dialled, rfl⟩, fetched, _,
      ⟨reply, rfl⟩, _, _, ⟨revision, rfl⟩, outcome, _, ⟨_, excluded, taken, _, rfl⟩, _, rfl⟩
    exact ⟨ttl, session, draws, fetched, ⟨timed, deviceId, credentialId, selected, dialled⟩, reply, revision,
      ⟨excluded, taken⟩, rfl⟩
  · rintro ⟨ttl, session, draws, fetched, ⟨timed, deviceId, credentialId, selected, dialled⟩, reply, revision,
      ⟨excluded, taken⟩, rfl⟩
    have within := clipboardTtl_within timed
    exact ⟨_, ttl, before, ⟨timed, rfl⟩, (deviceId, credentialId), before, ⟨selected, rfl⟩, (session, draws), before,
      ⟨dialled, rfl⟩, fetched, before, ⟨reply, rfl⟩, (), before, ⟨revision, rfl⟩, _, _, ⟨within, excluded, taken, rfl, rfl⟩,
      rfl, rfl⟩

/-- The one row of the listing for the page's host, and the session its secret is fetched on. -/
def FillsFrom (store : PairingStore) (verifierName : String) (dials : Dials τ) (params : VaultFillParams)
    (item : ItemSummary) (session : τ) (draws : Draws) : Prop :=
  ∃ host deviceId credentialId first items, originHost params.origin = some host ∧
    selectServiceCredential store "vault" "personal vault" params.credentialId = .ok (deviceId, credentialId) ∧
    dials deviceId credentialId 0 = .ok first ∧
    (walkVault verifierName first (dials deviceId credentialId)).1 = .ok items ∧ matched host items = [item] ∧
    dials deviceId credentialId (walkVault verifierName first (dials deviceId credentialId)).2 = .ok (session, draws)

/-- A fill that succeeds hands out what the reply carries, under the username of the row. -/
theorem vaultFill_eq_ok {store : PairingStore} {verifierName : String} {dials : Dials τ} {params : VaultFillParams}
    {result : VaultFillResult} :
    vaultFill store verifierName dials params = .ok result ↔
      ∃ item session draws fetched, FillsFrom store verifierName dials params item session draws ∧
        Fetched verifierName item.id session draws fetched ∧ result = ⟨fetched.secret, item.username⟩ := by
  unfold vaultFill
  simp only [except_bind_eq_ok, okOr_eq_ok, except_mapError_eq_ok]
  constructor
  · rintro ⟨host, origin, ⟨deviceId, credentialId⟩, selected, first, dialled, items, listed, run⟩
    split at run
    · rename_i item only
      simp only [except_bind_eq_ok, except_mapError_eq_ok, except_pure_eq_ok, fetch_eq_ok] at run
      obtain ⟨⟨session, draws⟩, again, fetched, reply, rfl⟩ := run
      exact ⟨item, session, draws, fetched, ⟨host, deviceId, credentialId, first, items, origin, selected, dialled, listed,
        only, again⟩, reply, rfl⟩
    · cases run
    · cases run
  · rintro ⟨item, session, draws, fetched, ⟨host, deviceId, credentialId, first, items, origin, selected, dialled, listed,
      only, again⟩, reply, rfl⟩
    refine ⟨host, origin, (deviceId, credentialId), selected, first, dialled, items, listed, ?_⟩
    rw [only]
    simp only [except_bind_eq_ok, except_mapError_eq_ok, except_pure_eq_ok, fetch_eq_ok]
    exact ⟨(session, draws), again, fetched, reply, rfl⟩

/-- What is put on the clipboard is what a reply carries that names the item and its revision. -/
def CopyBelongs (store : PairingStore) (verifierName : String) (dials : Dials τ) (clipboard : Clipboard)
    (params : VaultCopyParams) : Prop :=
  ∀ before result after, vaultCopy store verifierName dials clipboard params before = (.ok result, after) →
    ∃ ttl session draws fetched, CopiesOn store dials params ttl session draws ∧
      Fetched verifierName params.itemId session draws fetched ∧ after = some fetched.secret ∧
      fetched.itemId = params.itemId ∧ fetched.revision = params.expectedRevision

/-- What is handed to the browser is what a reply carries that names the row and its revision. -/
def FillBelongs (store : PairingStore) (verifierName : String) (dials : Dials τ) (params : VaultFillParams) : Prop :=
  ∀ result, vaultFill store verifierName dials params = .ok result →
    ∃ item session draws fetched, FillsFrom store verifierName dials params item session draws ∧
      Fetched verifierName item.id session draws fetched ∧ result = ⟨fetched.secret, item.username⟩ ∧
      fetched.itemId = item.id ∧ fetched.revision = item.revision

theorem copyBelongs_iff (store : PairingStore) (verifierName : String) (dials : Dials τ) (clipboard : Clipboard)
    (params : VaultCopyParams) :
    CopyBelongs store verifierName dials clipboard params ↔
      ∀ ttl session draws fetched, CopiesOn store dials params ttl session draws →
        Fetched verifierName params.itemId session draws fetched → fetched.revision = params.expectedRevision →
        (∃ excluded, clipboard.setText fetched.secret = .ok excluded) → fetched.itemId = params.itemId := by
  constructor
  · intro belongs ttl session draws fetched copies reply revision taken
    have ran : ∃ result, vaultCopy store verifierName dials clipboard params none = (.ok result, some fetched.secret) :=
      vaultCopy_eq_ok.mpr ⟨ttl, session, draws, fetched, copies, reply, revision, taken, rfl⟩
    obtain ⟨result, run⟩ := ran
    obtain ⟨_, other, drawn, another, ⟨_, deviceId, credentialId, selected, dialled⟩, again, _, named, _⟩ :=
      belongs none result _ run
    obtain ⟨_, _, _, first, second⟩ := copies
    cases first.symm.trans selected
    cases second.symm.trans dialled
    exact (congrArg FetchResponse.itemId (reply.unique again)).trans named
  · intro named before result after run
    obtain ⟨ttl, session, draws, fetched, copies, reply, revision, taken, rfl⟩ := vaultCopy_eq_ok.mp ⟨result, run⟩
    exact ⟨ttl, session, draws, fetched, copies, reply, rfl, named ttl session draws fetched copies reply revision taken,
      revision⟩

theorem fillBelongs_iff (store : PairingStore) (verifierName : String) (dials : Dials τ) (params : VaultFillParams) :
    FillBelongs store verifierName dials params ↔
      ∀ item session draws fetched, FillsFrom store verifierName dials params item session draws →
        Fetched verifierName item.id session draws fetched →
        fetched.itemId = item.id ∧ fetched.revision = item.revision := by
  constructor
  · intro belongs item session draws fetched fills reply
    obtain ⟨other, others, drawn, another, ⟨host, deviceId, credentialId, first, items, origin, selected, dialled, listed, only,
      again⟩, replied, _, named, revision⟩ := belongs _ (vaultFill_eq_ok.mpr ⟨item, session, draws, fetched, fills, reply, rfl⟩)
    obtain ⟨_, _, _, _, _, sameOrigin, sameSelected, sameDialled, sameListed, sameOnly, sameAgain⟩ := fills
    cases sameOrigin.symm.trans origin
    cases sameSelected.symm.trans selected
    cases sameDialled.symm.trans dialled
    cases sameListed.symm.trans listed
    cases sameOnly.symm.trans only
    cases sameAgain.symm.trans again
    cases reply.unique replied
    exact ⟨named, revision⟩
  · intro named result run
    obtain ⟨item, session, draws, fetched, fills, reply, rfl⟩ := vaultFill_eq_ok.mp run
    exact ⟨item, session, draws, fetched, fills, reply, rfl, named item session draws fetched fills reply⟩

/-- A copy hands out the secret of the item it was asked for exactly when a reply at the right revision names that item, and
a fill that of the row it chose exactly when the reply names both. -/
theorem secret_belongs_iff (store : PairingStore) (verifierName : String) (dials : Dials τ) (clipboard : Clipboard)
    (copy : VaultCopyParams) (fill : VaultFillParams) :
    (CopyBelongs store verifierName dials clipboard copy ↔
      ∀ ttl session draws fetched, CopiesOn store dials copy ttl session draws →
        Fetched verifierName copy.itemId session draws fetched → fetched.revision = copy.expectedRevision →
        (∃ excluded, clipboard.setText fetched.secret = .ok excluded) → fetched.itemId = copy.itemId) ∧
    (FillBelongs store verifierName dials fill ↔
      ∀ item session draws fetched, FillsFrom store verifierName dials fill item session draws →
        Fetched verifierName item.id session draws fetched →
        fetched.itemId = item.id ∧ fetched.revision = item.revision) :=
  ⟨copyBelongs_iff store verifierName dials clipboard copy, fillBelongs_iff store verifierName dials fill⟩

end Service

/-- A phone with one credential for the vault. -/
def vaultStore : PairingStore := sshStore [{ sshCredential "v" [] with purpose := .vault }]

def scriptedDraws (n : Nat) : Draws := ⟨⟨List.replicate 16 (UInt8.ofNat n), List.length_replicate⟩, 1000, 2000⟩

/-- A session whose phone answers one request with some payload. -/
def answering (n : Nat) (operation : String) (payload : Bytes) : Scripted × Draws :=
  let binding : Block Protocol.sessionBindingLen := Block.replicate 32 3
  (⟨binding, [scriptedReply ⟨.vault, n, scriptedDraws n, operation, []⟩ binding payload]⟩, scriptedDraws n)

def listedRow : ItemSummary := ⟨"a", 1, .login, "Mail", "ana", "https://mail.example", 0⟩

/-- The phone lists one row and answers with the secret of another item. -/
def crossedDials : Dials Scripted := fun _ _ n =>
  .ok (if n = 0 then answering 0 operationList (ListResponse.encode ⟨[listedRow], ""⟩)
    else answering n operationFetch (FetchResponse.encode ⟨"b", 9, "hunter2"⟩))

def crossedCopyDials : Dials Scripted := fun _ _ n => .ok (answering n operationFetch (FetchResponse.encode ⟨"b", 1, "hunter2"⟩))

def openClipboard : Clipboard := ⟨fun _ => .ok (true, true), 0, true⟩

theorem crossed_fill : ¬FillBelongs vaultStore "desk" crossedDials ⟨"https://mail.example", none⟩ := by
  intro belongs
  have ran : (PhoneVault.fetch "desk" (scriptedDraws 1) "a"
      (answering 1 operationFetch (FetchResponse.encode ⟨"b", 9, "hunter2"⟩)).1).1 = .ok ⟨"b", 9, "hunter2"⟩ := by
    decide +kernel
  have reply := fetch_eq_ok.mp ran
  have fills : FillsFrom vaultStore "desk" crossedDials ⟨"https://mail.example", none⟩ listedRow
      (answering 1 operationFetch (FetchResponse.encode ⟨"b", 9, "hunter2"⟩)).1 (scriptedDraws 1) :=
    ⟨"mail.example", "phone", "v", _, [listedRow], by decide +kernel, by decide +kernel, rfl, by decide +kernel,
      by decide +kernel, by
        have asked : (walkVault "desk" (answering 0 operationList (ListResponse.encode ⟨[listedRow], ""⟩))
            (crossedDials "phone" "v")).2 = 1 := by decide +kernel
        change crossedDials "phone" "v" (walkVault "desk" (answering 0 operationList (ListResponse.encode ⟨[listedRow], ""⟩))
            (crossedDials "phone" "v")).2 = _
        rw [asked]
        rfl⟩
  have named := ((fillBelongs_iff vaultStore "desk" crossedDials ⟨"https://mail.example", none⟩).mp belongs _ _ _ _ fills
    reply).1
  exact absurd named (by decide)

theorem crossed_copy : ¬CopyBelongs vaultStore "desk" crossedCopyDials openClipboard ⟨"a", 1, none, none⟩ := by
  intro belongs
  have ran : (PhoneVault.fetch "desk" (scriptedDraws 0) "a"
      (answering 0 operationFetch (FetchResponse.encode ⟨"b", 1, "hunter2"⟩)).1).1 = .ok ⟨"b", 1, "hunter2"⟩ := by
    decide +kernel
  have reply := fetch_eq_ok.mp ran
  have named := (copyBelongs_iff vaultStore "desk" crossedCopyDials openClipboard ⟨"a", 1, none, none⟩).mp belongs defaultTtl
    _ _ _ ⟨by decide +kernel, "phone", "v", by decide +kernel, rfl⟩ reply rfl ⟨_, rfl⟩
  exact absurd named (by decide)

/-- The secret of the item `b` is filled as that of `a`, at a revision that was not listed, and is copied as that of `a`. -/
theorem other_secret_delivered :
    vaultFill vaultStore "desk" crossedDials ⟨"https://mail.example", none⟩ = .ok ⟨"hunter2", "ana"⟩ ∧
    ¬FillBelongs vaultStore "desk" crossedDials ⟨"https://mail.example", none⟩ ∧
    ((vaultCopy vaultStore "desk" crossedCopyDials openClipboard ⟨"a", 1, none, none⟩ none).2 = some "hunter2") ∧
    ¬CopyBelongs vaultStore "desk" crossedCopyDials openClipboard ⟨"a", 1, none, none⟩ :=
  ⟨by decide +kernel, crossed_fill, by decide +kernel, crossed_copy⟩

end BioAuth.Agent
