import BioAuth.Lib.Answers
import BioAuth.Lib.Text
import BioAuth.Mobile.Messages

namespace BioAuth.Mobile
open BioAuth

structure TransportSecurityProperties where
  confidential : Bool
  peerAuthenticated : Bool
  deriving DecidableEq

inductive AuthorizationResult
  | approved
  | denied

namespace AuthenticationRequest

/-- What a request puts before the user. -/
structure Display where
  deviceName : String
  origin : String
  service : String
  action : String
  resource : String
  user : String
  requestedAt : DateTime
  deriving DecidableEq

def display (request : AuthenticationRequest) : Display where
  deviceName := request.verifierName
  origin := request.origin
  service := request.service
  action := request.action
  resource := request.resource
  user := request.user
  requestedAt := request.issuedAt

end AuthenticationRequest

/-- How a result that is waited for comes out. -/
inductive Result
  | value (result : AuthorizationResult)
  | error (reason : String)

structure InteractiveAuthorizer where
  consent : Answers AuthenticationRequest
  outcome : Table String Nat
  completers : Nat
  results : List (Nat × Result)

namespace InteractiveAuthorizer

def new : InteractiveAuthorizer := ⟨.none, .empty, 0, []⟩

def confirm (request : AuthenticationRequest) (transport : TransportSecurityProperties) (authorizer : InteractiveAuthorizer) :
    InteractiveAuthorizer :=
  if !transport.confidential || !transport.peerAuthenticated then
    { authorizer with consent := authorizer.consent.note [.refused request] }
  else
    -- `putIfAbsent`: whatever is pending under the id answers for this request too.
    { authorizer with consent := authorizer.consent.ask request.requestId (fun _ => true) true request }

/-- The user has tapped to approve what is on screen. Nothing is pending any more if the session has ended. -/
def authorize (request : AuthenticationRequest) (authorizer : InteractiveAuthorizer) : InteractiveAuthorizer :=
  match authorizer.consent.pending.get? request.requestId with
  | none => authorizer
  | some _ =>
    let consent := authorizer.consent.answer request.requestId true (.approved request)
    match authorizer.outcome.get? request.requestId with
    | some _ => { authorizer with consent }
    | none => { authorizer with
        consent
        outcome := authorizer.outcome.insert request.requestId authorizer.completers
        completers := authorizer.completers + 1 }

/-- The user has denied what is on screen. -/
def cancel (request : AuthenticationRequest) (authorizer : InteractiveAuthorizer) : InteractiveAuthorizer :=
  { authorizer with consent := authorizer.consent.answer request.requestId false (.denied request) }

def complete (requestId : String) (result : Result) (authorizer : InteractiveAuthorizer) : InteractiveAuthorizer :=
  match authorizer.outcome.get? requestId with
  | some completer =>
    { authorizer with
      outcome := authorizer.outcome.remove requestId
      results := authorizer.results ++ [(completer, result)] }
  | none => authorizer

def settle (requestId : String) (result : AuthorizationResult) (authorizer : InteractiveAuthorizer) : InteractiveAuthorizer :=
  authorizer.complete requestId (.value result)

/-- The session that has raised an id has ended. It need not have asked for an authorization under it. -/
def abandon (requestId : String) (owner : Option AuthenticationRequest) (reason : String)
    (authorizer : InteractiveAuthorizer) : InteractiveAuthorizer :=
  ({ authorizer with consent := authorizer.consent.answer requestId false (.abandoned owner) } :
    InteractiveAuthorizer).complete requestId (.error reason)

def abandonUnanswered (authorizer : InteractiveAuthorizer) : InteractiveAuthorizer :=
  { authorizer with consent := authorizer.consent.dismiss }

inductive Event
  | confirm (request : AuthenticationRequest) (transport : TransportSecurityProperties)
  | authorize (request : AuthenticationRequest)
  | cancel (request : AuthenticationRequest)
  | settle (requestId : String) (result : AuthorizationResult)
  | abandon (requestId : String) (owner : Option AuthenticationRequest) (reason : String)
  | abandonUnanswered

def after (authorizer : InteractiveAuthorizer) : Event → InteractiveAuthorizer
  | .confirm request transport => authorizer.confirm request transport
  | .authorize request => authorizer.authorize request
  | .cancel request => authorizer.cancel request
  | .settle requestId result => authorizer.settle requestId result
  | .abandon requestId owner reason => authorizer.abandon requestId owner reason
  | .abandonUnanswered => authorizer.abandonUnanswered

def run (authorizer : InteractiveAuthorizer) (events : List Event) : InteractiveAuthorizer := events.foldl after authorizer

end InteractiveAuthorizer

/-- The two approvals of the vault and of ssh, which differ in what they show. -/
structure Sheets (ρ : Type) where
  id : ρ → String
  /-- Everything the sheet puts in front of the user, as one string. -/
  shown : ρ → String

namespace Sheets
variable {ρ : Type} (sheets : Sheets ρ)

/-- An id that is taken waits on the same answer only for what is shown already. -/
def confirm (request : ρ) (approval : Answers ρ) : Answers ρ :=
  approval.ask (sheets.id request) (fun pending => sheets.shown pending = sheets.shown request) false request

/-- The sheet of a request has gone away with an answer. -/
def settle (request : ρ) (approved : Bool) (approval : Answers ρ) : Answers ρ :=
  approval.answer (sheets.id request) approved (if approved then .approved request else .denied request)

/-- The session that has raised an id has ended. It need not have asked for this kind of approval under it. -/
def abandon (requestId : String) (owner : Option ρ) (approval : Answers ρ) : Answers ρ :=
  approval.answer requestId false (.abandoned owner)

def abandonAll (approval : Answers ρ) : Answers ρ := approval.dismiss

inductive Event (ρ : Type)
  | confirm (request : ρ)
  | settle (request : ρ) (approved : Bool)
  | abandon (requestId : String) (owner : Option ρ)
  | abandonAll

def after (approval : Answers ρ) : Event ρ → Answers ρ
  | .confirm request => sheets.confirm request approval
  | .settle request approved => sheets.settle request approved approval
  | .abandon requestId owner => abandon requestId owner approval
  | .abandonAll => abandonAll approval

def run (approval : Answers ρ) (events : List (Event ρ)) : Answers ρ := events.foldl sheets.after approval

end Sheets

inductive VaultOperation
  | read
  | create
  | update
  | delete
  deriving DecidableEq

def VaultOperation.name : VaultOperation → String
  | .read => "read"
  | .create => "create"
  | .update => "update"
  | .delete => "delete"

structure VaultApprovalRequest where
  id : String
  verifierName : String
  operation : VaultOperation
  itemName : String
  username : String
  uri : String

/-- What a request puts before the user: who asks, for what, and of which item. -/
def VaultApprovalRequest.display (request : VaultApprovalRequest) : String × VaultOperation × String × String × String :=
  (request.verifierName, request.operation, request.itemName, request.username, request.uri)

def interactiveVaultApproval : Sheets VaultApprovalRequest where
  id := VaultApprovalRequest.id
  shown request := prefixedFields
    [request.verifierName, request.operation.name, request.itemName, request.username, request.uri]

structure SshApprovalRequest where
  id : String
  verifierName : String
  user : String
  destination : String

def SshApprovalRequest.display (request : SshApprovalRequest) : String × String × String :=
  (request.verifierName, request.user, request.destination)

def interactiveSshApproval : Sheets SshApprovalRequest where
  id := SshApprovalRequest.id
  shown request := prefixedFields [request.verifierName, request.user, request.destination]

/-- What is shown of a vault request says what it puts before the user. -/
theorem vault_shown {first second : VaultApprovalRequest}
    (same : interactiveVaultApproval.shown first = interactiveVaultApproval.shown second) : first.display = second.display := by
  have texts := prefixedFields_injective (by rfl) same
  obtain ⟨verifierName, rest⟩ := List.cons_eq_cons.mp texts
  obtain ⟨operation, rest⟩ := List.cons_eq_cons.mp rest
  obtain ⟨itemName, rest⟩ := List.cons_eq_cons.mp rest
  obtain ⟨username, rest⟩ := List.cons_eq_cons.mp rest
  obtain ⟨uri, _⟩ := List.cons_eq_cons.mp rest
  have named : first.operation = second.operation := by
    revert operation
    cases first.operation <;> cases second.operation <;> decide
  unfold VaultApprovalRequest.display
  rw [verifierName, named, itemName, username, uri]

theorem ssh_shown {first second : SshApprovalRequest}
    (same : interactiveSshApproval.shown first = interactiveSshApproval.shown second) : first.display = second.display := by
  have texts := prefixedFields_injective (by rfl) same
  obtain ⟨verifierName, rest⟩ := List.cons_eq_cons.mp texts
  obtain ⟨user, rest⟩ := List.cons_eq_cons.mp rest
  obtain ⟨destination, _⟩ := List.cons_eq_cons.mp rest
  unfold SshApprovalRequest.display
  rw [verifierName, user, destination]

namespace InteractiveAuthorizer
open AuthenticationRequest Answers

/-- Whatever is done under an id that is pending is about what is pending. -/
def Apt (authorizer : InteractiveAuthorizer) : Event → Prop
  | .confirm request transport => transport.confidential = true → transport.peerAuthenticated = true → ∀ pending completer,
    authorizer.consent.pending.get? request.requestId = some (pending, completer) → pending.display = request.display
  | .authorize request => ∀ pending completer,
    authorizer.consent.pending.get? request.requestId = some (pending, completer) → request.display = pending.display
  | .abandon requestId owner _ => ∀ pending completer,
    authorizer.consent.pending.get? requestId = some (pending, completer) →
      ∃ own, owner = some own ∧ own.display = pending.display
  | _ => True

def AptRun (authorizer : InteractiveAuthorizer) : List Event → Prop
  | [] => True
  | event :: events => authorizer.Apt event ∧ (authorizer.after event).AptRun events

theorem consent_complete (requestId : String) (result : Result) (authorizer : InteractiveAuthorizer) :
    (authorizer.complete requestId result).consent = authorizer.consent := by
  unfold complete
  split
  · rfl
  · rfl

theorem held_after {authorizer : InteractiveAuthorizer} (held : Held display authorizer.consent) {event : Event}
    (apt : authorizer.Apt event) : Held display (authorizer.after event).consent := by
  cases event with
  | confirm request transport =>
    change Held display (authorizer.confirm request transport).consent
    unfold confirm
    split
    · exact held.plain nofun nofun
    · rename_i secure
      rw [Bool.or_eq_true_iff, Bool.not_eq_true', Bool.not_eq_true', not_or, Bool.not_eq_false, Bool.not_eq_false] at secure
      exact held.ask fun pending completer found _ => apt secure.1 secure.2 pending completer found
  | authorize request =>
    have answered : Held display (authorizer.consent.answer request.requestId true (.approved request)) :=
      held.answer fun pending completer found => ⟨fun _ => ⟨request, rfl, apt pending completer found⟩, nofun⟩
    change Held display (authorizer.authorize request).consent
    unfold authorize
    split
    · exact held
    · dsimp only
      split
      · exact answered
      · exact answered
  | cancel request => exact held.answer fun _ _ _ => ⟨nofun, nofun⟩
  | settle requestId result =>
    change Held display (authorizer.complete requestId (.value result)).consent
    rw [consent_complete]
    exact held
  | abandon requestId owner reason =>
    change Held display (complete requestId (.error reason) _).consent
    rw [consent_complete]
    refine held.answer fun pending completer found => ⟨nofun, fun other same => ?_⟩
    cases same
    exact ⟨rfl, apt pending completer found⟩
  | abandonUnanswered => exact held.dismiss

theorem held_run {authorizer : InteractiveAuthorizer} (held : Held display authorizer.consent) {events : List Event}
    (apt : authorizer.AptRun events) : Held display (authorizer.run events).consent := by
  induction events generalizing authorizer with
  | nil => exact held
  | cons event events ih => exact ih (held_after held apt.1) apt.2

end InteractiveAuthorizer

namespace Sheets
open Answers
variable {ρ κ : Type} (sheets : Sheets ρ) (display : ρ → κ)

/-- Whatever answers what is pending under an id is about what is pending. -/
def Apt (approval : Answers ρ) : Event ρ → Prop
  | .settle request approved => approved = true → ∀ pending completer,
    approval.pending.get? (sheets.id request) = some (pending, completer) → display request = display pending
  | .abandon requestId owner => ∀ pending completer, approval.pending.get? requestId = some (pending, completer) →
    ∃ own, owner = some own ∧ display own = display pending
  | _ => True

def AptRun (approval : Answers ρ) : List (Event ρ) → Prop
  | [] => True
  | event :: events => sheets.Apt display approval event ∧ AptRun (sheets.after approval event) events

variable {sheets display}

theorem held_after (tells : ∀ first second, sheets.shown first = sheets.shown second → display first = display second)
    {approval : Answers ρ} (held : Held display approval) {event : Event ρ} (apt : sheets.Apt display approval event) :
    Held display (sheets.after approval event) := by
  cases event with
  | confirm request => exact held.ask fun pending completer _ same => tells pending request (of_decide_eq_true same)
  | settle request approved =>
    refine held.answer fun pending completer found => ?_
    cases approved with
    | true => exact ⟨fun _ => ⟨request, rfl, apt rfl pending completer found⟩, nofun⟩
    | false => exact ⟨nofun, nofun⟩
  | abandon requestId owner =>
    refine held.answer fun pending completer found => ⟨nofun, fun other same => ?_⟩
    cases same
    exact ⟨rfl, apt pending completer found⟩
  | abandonAll => exact held.dismiss

theorem held_run (tells : ∀ first second, sheets.shown first = sheets.shown second → display first = display second)
    {approval : Answers ρ} (held : Held display approval) {events : List (Event ρ)}
    (apt : sheets.AptRun display approval events) : Held display (sheets.run approval events) := by
  induction events generalizing approval with
  | nil => exact held
  | cons event events ih => exact ih (held_after tells held apt.1) apt.2

end Sheets

open AuthenticationRequest in
/-- In each of the three an answer covers what was shown, if nothing is done under a pending id that is about something else. -/
theorem approvals_cover_what_was_shown (events : List InteractiveAuthorizer.Event) :
    (InteractiveAuthorizer.new.AptRun events →
      Answers.Orderly display (InteractiveAuthorizer.new.run events).consent.log) ∧
    (∀ events, interactiveVaultApproval.AptRun VaultApprovalRequest.display .none events →
      Answers.Orderly VaultApprovalRequest.display (interactiveVaultApproval.run .none events).log) ∧
    (∀ events, interactiveSshApproval.AptRun SshApprovalRequest.display .none events →
      Answers.Orderly SshApprovalRequest.display (interactiveSshApproval.run .none events).log) := by
  refine ⟨fun apt => ?_, fun events apt => ?_, fun events apt => ?_⟩
  · exact (InteractiveAuthorizer.held_run Answers.held_none apt).orderly
  · exact (Sheets.held_run (fun _ _ => vault_shown) Answers.held_none apt).orderly
  · exact (Sheets.held_run (fun _ _ => ssh_shown) Answers.held_none apt).orderly

section Plain

def epoch : DateTime := .sinceEpoch 0

/-- What a desktop asks under the id `r1`. -/
def plainRequest (verifierName resource : String) : AuthenticationRequest :=
  ⟨1, "r1", verifierName, verifierName, "login", [], "wifi", "sudo", "run", resource, "ada", epoch, epoch, []⟩

def plainTransport : TransportSecurityProperties := ⟨true, true⟩

def savedItem : VaultApprovalRequest := ⟨"r1", "desk", .create, "Mail", "ada", ""⟩

def readItem : VaultApprovalRequest := ⟨"r1", "laptop", .read, "Bank", "ada", ""⟩

def login : SshApprovalRequest := ⟨"r1", "desk", "ada", "server"⟩

open InteractiveAuthorizer in
theorem approvals_cover_what_was_shown_plain :
    Answers.Orderly AuthenticationRequest.display (new.run [.confirm (plainRequest "desk" "apt") plainTransport,
        .confirm (plainRequest "desk" "apt") plainTransport, .authorize (plainRequest "desk" "apt")]).consent.log ∧
      Answers.Orderly VaultApprovalRequest.display (interactiveVaultApproval.run .none
        [.confirm savedItem, .confirm readItem, .settle savedItem true]).log ∧
      Answers.Orderly SshApprovalRequest.display (interactiveSshApproval.run .none
        [.confirm login, .confirm login, .abandon "r1" (some login)]).log := by
  refine ⟨(approvals_cover_what_was_shown _).1 ?_, (approvals_cover_what_was_shown []).2.1 _ ?_,
    (approvals_cover_what_was_shown []).2.2 _ ?_⟩
  · refine ⟨fun _ _ _ _ found => ?_, fun _ _ _ _ found => ?_, fun _ _ found => ?_, trivial⟩
    · cases found
    · cases found
      rfl
    · cases found
      rfl
  · refine ⟨trivial, trivial, fun _ _ _ found => ?_, trivial⟩
    cases found
    rfl
  · refine ⟨trivial, trivial, fun _ _ found => ?_, trivial⟩
    cases found
    exact ⟨login, rfl, rfl⟩

open InteractiveAuthorizer in
/-- Two desktops choose one id, and the user who approves what one of them asks approves what the other does. And a sheet that
is tapped when its session has gone answers what another session has asked since. -/
theorem one_tap_answers_another :
    ¬Answers.Orderly AuthenticationRequest.display (new.run [.confirm (plainRequest "desk" "apt") plainTransport,
        .confirm (plainRequest "laptop" "rm") plainTransport, .authorize (plainRequest "desk" "apt")]).consent.log ∧
      ¬Answers.Orderly VaultApprovalRequest.display (interactiveVaultApproval.run .none
        [.confirm savedItem, .abandon "r1" (some savedItem), .confirm readItem, .settle savedItem true]).log := by
  constructor
  · intro orderly
    have same := orderly.alike (plainRequest "desk" "apt") (plainRequest "laptop" "rm") 0
      (List.mem_cons_of_mem _ List.mem_cons_self)
      (List.mem_cons_of_mem _ (List.mem_cons_of_mem _ (List.mem_cons_of_mem _ List.mem_cons_self)))
    exact absurd same (by decide)
  · intro orderly
    obtain ⟨tapped, _, _, _, by_tap, _, _, _, _, same⟩ := orderly.approved readItem 1 (.approved savedItem)
      (List.mem_of_getElem? (i := 4) rfl) (List.mem_of_getElem? (i := 5) rfl)
    cases by_tap
    exact absurd same (by decide)

end Plain

end BioAuth.Mobile
