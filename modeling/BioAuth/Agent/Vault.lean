import BioAuth.Agent.Exchange
import BioAuth.Protocol.Vault

namespace BioAuth.Agent
open BioAuth
open BioAuth.Protocol (ProtocolError)
open BioAuth.Protocol.Vault (FetchRequest FetchResponse ItemSummary ListRequest ListResponse)

def operationList : String := "vault.list"

def operationFetch : String := "vault.fetch"

/-- How many items one listing may carry before the agent gives up. -/
def maxItems : Nat := 4096

namespace VaultError

def ofProtocol (error : ProtocolError) : VaultError := .protocol error.message

end VaultError

section Phone
variable {τ : Type} [SecureSession τ]

/-- One page of the listing, starting a walk when the cursor is empty. -/
def PhoneVault.listPage (verifierName : String) (draws : Draws) (cursor : String) : Fallible τ VaultError ListResponse := do
  let request : ListRequest := { verifierName, cursor }
  request.validate.mapError VaultError.ofProtocol
  let answer ← PhoneVault.exchange draws operationList request.encode
  (ListResponse.decode answer).mapError VaultError.ofProtocol

/-- One item's secret, after the user approves it on the phone. -/
def PhoneVault.fetch (verifierName : String) (draws : Draws) (itemId : String) : Fallible τ VaultError FetchResponse := do
  let request : FetchRequest := { verifierName, itemId }
  request.validate.mapError VaultError.ofProtocol
  let answer ← PhoneVault.exchange draws operationFetch request.encode
  (FetchResponse.decode answer).mapError VaultError.ofProtocol

/-- What each call of `open` brings, in order: a session, with what is drawn for the exchange on it. -/
abbrev Opens (τ : Type) := Nat → Except VaultError (τ × Draws)

/-- The page read on one session of its own. -/
def pageOn (verifierName : String) (opens : Opens τ) (opened : Nat) (cursor : String) :
    Except VaultError ListResponse := do
  let (session, draws) ← opens opened
  (PhoneVault.listPage verifierName draws cursor session).1

/-- The loop of `list_all`, with how many sessions were asked for by its end. -/
def listFrom (verifierName : String) (opens : Opens τ) (opened : Nat) (items : List ItemSummary) (cursor : String)
    (seen : List String) : Except VaultError (List ItemSummary) × Nat :=
  match pageOn verifierName opens opened cursor with
  | .error error => (.error error, opened + 1)
  | .ok page =>
    let gathered := items ++ page.items
    if page.nextCursor = "" then (.ok gathered, opened + 1)
    else if page.nextCursor ∈ seen then (.error (.protocol "the phone repeated a page cursor"), opened + 1)
    else if ended : page.items.length = 0 ∨ maxItems < gathered.length then
      (.error (.protocol "the vault listing did not end"), opened + 1)
    else listFrom verifierName opens (opened + 1) gathered page.nextCursor (page.nextCursor :: seen)
termination_by maxItems + 1 - items.length
decreasing_by
  rw [not_or, List.length_append] at ended
  rw [List.length_append]
  omega

/-- Every item's metadata, walked page by page, opening one session per page. -/
def listAll (verifierName : String) (opens : Opens τ) : Except VaultError (List ItemSummary) × Nat :=
  listFrom verifierName opens 0 [] "" []

/-- Each page was read on a session of its own, from where the page before it ended. -/
inductive Walked (verifierName : String) (opens : Opens τ) : Nat → String → List ListResponse → Prop
  | last {opened : Nat} {cursor : String} {page : ListResponse} (read : pageOn verifierName opens opened cursor = .ok page)
      (ends : page.nextCursor = "") : Walked verifierName opens opened cursor [page]
  | next {opened : Nat} {cursor : String} {page : ListResponse} {pages : List ListResponse}
      (read : pageOn verifierName opens opened cursor = .ok page) (goes : page.nextCursor ≠ "")
      (later : Walked verifierName opens (opened + 1) page.nextCursor pages) :
      Walked verifierName opens opened cursor (page :: pages)

variable {verifierName : String} {opens : Opens τ} {opened : Nat} {items : List ItemSummary} {cursor : String}
  {seen : List String}

/-- Each page that is followed by another adds an item, so there is a last one before the ceiling is passed. -/
theorem listFrom_opened (room : items.length ≤ maxItems) :
    (listFrom verifierName opens opened items cursor seen).2 + items.length ≤ opened + (maxItems + 1) := by
  fun_induction listFrom verifierName opens opened items cursor seen with
  | case1 => dsimp only; omega
  | case2 => dsimp only; omega
  | case3 => dsimp only; omega
  | case4 => dsimp only; omega
  | case5 opened items cursor seen page read gathered goes fresh ended ih =>
    rw [not_or, Nat.not_lt] at ended
    have grown : gathered.length = items.length + page.items.length := List.length_append
    have later := ih ended.2
    omega

/-- A walk that succeeds returns the pages it read, one after the other. -/
theorem listFrom_eq_ok {all : List ItemSummary} {stop : Nat} (unseen : "" ∉ seen)
    (run : listFrom verifierName opens opened items cursor seen = (.ok all, stop)) :
    ∃ pages, Walked verifierName opens opened cursor pages ∧ all = items ++ pages.flatMap ListResponse.items ∧
      stop = opened + pages.length ∧ (pages.map ListResponse.nextCursor).Nodup ∧
      ∀ page ∈ pages, page.nextCursor ∉ seen := by
  fun_induction listFrom verifierName opens opened items cursor seen with
  | case1 => cases run
  | case2 opened items cursor seen page read gathered ends =>
    obtain ⟨same, rfl⟩ := Prod.mk.inj run
    refine ⟨[page], .last read ends, (Except.ok.inj same).symm.trans ?_, rfl, List.nodup_singleton _, List.forall_mem_singleton.mpr (ends ▸ unseen)⟩
    change items ++ page.items = _
    rw [List.flatMap_cons, List.flatMap_nil, List.append_nil]
  | case3 => cases run
  | case4 => cases run
  | case5 opened items cursor seen page read gathered goes fresh ended ih =>
    have still : "" ∉ page.nextCursor :: seen := by
      rw [List.mem_cons, not_or]
      exact ⟨fun empty => goes empty.symm, unseen⟩
    obtain ⟨pages, walked, rfl, rfl, distinct, apart⟩ := ih still run
    refine ⟨page :: pages, .next read goes walked, ?_, ?_, ?_, ?_⟩
    · rw [List.flatMap_cons, List.append_assoc]
    · rw [List.length_cons]
      omega
    · rw [List.map_cons, List.nodup_cons]
      refine ⟨fun member => ?_, distinct⟩
      obtain ⟨other, inside, same⟩ := List.mem_map.mp member
      exact apart other inside (same ▸ List.mem_cons_self)
    · refine List.forall_mem_cons.mpr ⟨fresh, fun other inside member => ?_⟩
      exact apart other inside (List.mem_cons_of_mem _ member)

/-- Whatever the phones answer, the walk asks for no more sessions than the ceiling allows, and what it returns is what the
pages carried, each read once, from a cursor that no page before it named. -/
theorem listAll_ends (verifierName : String) (opens : Opens τ) :
    (listAll verifierName opens).2 ≤ maxItems + 1 ∧
      ∀ items stop, listAll verifierName opens = (.ok items, stop) →
        ∃ pages, Walked verifierName opens 0 "" pages ∧ items = pages.flatMap ListResponse.items ∧ stop = pages.length ∧
          (pages.map ListResponse.nextCursor).Nodup := by
  constructor
  · have bound : (listAll verifierName opens).2 + ([] : List ItemSummary).length ≤ 0 + (maxItems + 1) :=
      listFrom_opened (Nat.zero_le _)
    rwa [List.length_nil, Nat.zero_add] at bound
  · intro items stop run
    obtain ⟨pages, walked, same, count, distinct, _⟩ := listFrom_eq_ok List.not_mem_nil run
    exact ⟨pages, walked, same, count.trans (Nat.zero_add _), distinct⟩

end Phone

end BioAuth.Agent
