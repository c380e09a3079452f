import BioAuth.Mobile.Vault

namespace BioAuth.Mobile
open BioAuth

/-- What the store says of an item. -/
structure VaultStore.VaultItemSummary where
  id : String
  revision : Int64
  kind : VaultItemKind
  name : String
  username : String
  uri : String
  updatedAt : DateTime

/-- One look at the vault's metadata, reused across a paged walk. An onlooker numbers the reads of the store, and notes the
era each began in, how it ended, and which read each call is answered with. -/
structure VaultListing (ε : Type) where
  items : Option (Nat × List VaultStore.VaultItemSummary)
  usedAt : Option Int
  reading : Option Nat
  era : Nat
  /-- Whether the timer is running. -/
  expiry : Bool
  reads : List Nat
  results : Nat → Option (Except ε (List VaultStore.VaultItemSummary))
  calls : List Nat

namespace VaultListing

inductive Event (ε : Type)
  | items (restart : Bool) (checkedAt touchedAt : Int)
  | forget
  | expired
  | ended (read : Nat) (result : Except ε (List VaultStore.VaultItemSummary)) (touchedAt : Int)

section Runs
variable {ε : Type} (ttl : Int)

def fresh : VaultListing ε := ⟨none, none, none, 0, false, [], fun _ => none, []⟩

/-- `_touch`. -/
def touch (touchedAt : Int) (listing : VaultListing ε) : VaultListing ε :=
  { listing with usedAt := some touchedAt, expiry := true }

def forget (listing : VaultListing ε) : VaultListing ε :=
  { listing with items := none, usedAt := none, reading := none, era := listing.era + 1, expiry := false }

/-- What a call is answered with at once. -/
def served (restart : Bool) (checkedAt : Int) (listing : VaultListing ε) : Option Nat :=
  match listing.items, listing.usedAt with
  | some held, some used => if restart = false ∧ checkedAt - used < ttl then some held.1 else none
  | _, _ => none

/-- A call joins the read under way or begins one. -/
def await (listing : VaultListing ε) : VaultListing ε :=
  match listing.reading with
  | some read => { listing with calls := listing.calls ++ [read] }
  | none =>
    { listing with
      reading := some listing.reads.length
      reads := listing.reads ++ [listing.era]
      calls := listing.calls ++ [listing.reads.length] }

/-- What is left to do of a read when the store has answered. -/
def settle (read : Nat) (result : Except ε (List VaultStore.VaultItemSummary)) (touchedAt : Int)
    (listing : VaultListing ε) : VaultListing ε :=
  let ended := { listing with results := Function.update listing.results read (some result) }
  if listing.reads[read]? = some listing.era then
    match result with
    | .ok items => { touch touchedAt { ended with items := some (read, items) } with reading := none }
    | .error _ => { ended with reading := none }
  else ended

def after (listing : VaultListing ε) : Event ε → VaultListing ε
  | .items restart checkedAt touchedAt =>
    match listing.served ttl restart checkedAt with
    | some read => { listing.touch touchedAt with calls := listing.calls ++ [read] }
    | none => listing.await
  | .forget => listing.forget
  | .expired => if listing.expiry then listing.forget else listing
  | .ended read result touchedAt =>
    if read < listing.reads.length ∧ listing.results read = none then listing.settle read result touchedAt else listing

/-- What has become of the listing after so many events. -/
def foundAt (events : List (Event ε)) (number : Nat) : VaultListing ε :=
  (events.take number).foldl (after ttl) fresh

/-- The event drops what is held. -/
def Drops (listing : VaultListing ε) (event : Event ε) : Prop :=
  event = .forget ∨ event = .expired ∧ listing.expiry = true

variable {ttl}

/-- What holds of a listing and its reads at every moment. -/
structure Sound (listing : VaultListing ε) : Prop where
  held : ∀ read items, listing.items = some (read, items) →
    listing.reads[read]? = some listing.era ∧ listing.results read = some (.ok items)
  underWay : ∀ read, listing.reading = some read →
    listing.reads[read]? = some listing.era ∧ listing.results read = none
  alone : ∀ read, listing.reads[read]? = some listing.era → listing.results read = none → listing.reading = some read
  eras : ∀ era ∈ listing.reads, era ≤ listing.era
  ends : ∀ read result, listing.results read = some result → read < listing.reads.length

theorem fresh_sound : (fresh : VaultListing ε).Sound where
  held _ _ held := nomatch held
  underWay _ reading := nomatch reading
  alone _ here := nomatch here
  eras _ member := absurd member List.not_mem_nil
  ends _ _ known := nomatch known

namespace Sound
variable {listing : VaultListing ε}

theorem forget (sound : listing.Sound) : listing.forget.Sound where
  held _ _ held := nomatch held
  underWay _ reading := nomatch reading
  alone read here := by
    have early := sound.eras _ (List.mem_of_getElem? here)
    exact absurd early (by simp only [VaultListing.forget]; omega)
  eras era member := Nat.le_succ_of_le (sound.eras era member)
  ends := sound.ends

/-- What a call is answered with, and the times, are none of the read's business. -/
theorem of_same (sound : listing.Sound) {next : VaultListing ε} (items : next.items = listing.items)
    (reading : next.reading = listing.reading) (era : next.era = listing.era) (reads : next.reads = listing.reads)
    (results : next.results = listing.results) : next.Sound where
  held := by
    rw [items, era, reads, results]
    exact sound.held
  underWay := by
    rw [reading, era, reads, results]
    exact sound.underWay
  alone := by
    rw [reading, era, reads, results]
    exact sound.alone
  eras := by
    rw [era, reads]
    exact sound.eras
  ends := by
    rw [reads, results]
    exact sound.ends

theorem await (sound : listing.Sound) : listing.await.Sound := by
  unfold VaultListing.await
  rcases reading : listing.reading with _ | read
  · have unanswered : listing.results listing.reads.length = none := by
      rcases known : listing.results listing.reads.length with _ | result
      · rfl
      · exact absurd (sound.ends _ result known) (Nat.lt_irrefl _)
    have old {read era : Nat} (here : listing.reads[read]? = some era) : (listing.reads ++ [listing.era])[read]? = some era := by
      rw [List.getElem?_append_left (List.getElem?_eq_some_iff.mp here).1, here]
    constructor
    · intro read items held
      obtain ⟨here, known⟩ := sound.held read items held
      exact ⟨old here, known⟩
    · intro read begun
      cases begun
      exact ⟨List.getElem?_concat_length, unanswered⟩
    · intro read here pending
      by_cases before : read < listing.reads.length
      · rw [List.getElem?_append_left before] at here
        rw [sound.alone read here pending] at reading
        cases reading
      · have last : read < (listing.reads ++ [listing.era]).length := (List.getElem?_eq_some_iff.mp here).1
        rw [List.length_append, List.length_singleton] at last
        rw [show read = listing.reads.length by omega]
    · intro era member
      rcases List.mem_append.mp member with before | last
      · exact sound.eras era before
      · exact le_of_eq (List.mem_singleton.mp last)
    · intro read result known
      have before := sound.ends read result known
      rw [List.length_append]
      omega
  · exact sound.of_same rfl reading.symm rfl rfl rfl

theorem settle (sound : listing.Sound) {read : Nat} (begun : read < listing.reads.length)
    (pending : listing.results read = none) (result : Except ε (List VaultStore.VaultItemSummary)) (touchedAt : Int) :
    (listing.settle read result touchedAt).Sound := by
  have others {other : Nat} {found : Except ε (List VaultStore.VaultItemSummary)}
      (known : listing.results other = some found) :
      Function.update listing.results read (some result) other = some found := by
    have apart : other ≠ read := by
      intro same
      rw [same, pending] at known
      cases known
    rw [Function.update_of_ne apart, known]
  have waiting {other : Nat} (unknown : Function.update listing.results read (some result) other = none) :
      other ≠ read ∧ listing.results other = none := by
    have apart : other ≠ read := by
      intro same
      rw [same, Function.update_self] at unknown
      cases unknown
    rw [Function.update_of_ne apart] at unknown
    exact ⟨apart, unknown⟩
  have ends (other : Nat) (found : Except ε (List VaultStore.VaultItemSummary))
      (known : Function.update listing.results read (some result) other = some found) : other < listing.reads.length := by
    by_cases same : other = read
    · rw [same]
      exact begun
    · rw [Function.update_of_ne same] at known
      exact sound.ends other found known
  unfold VaultListing.settle
  by_cases current : listing.reads[read]? = some listing.era
  · -- The one read of this era: none is under way now.
    have mine := sound.alone read current pending
    have none_left {other : Nat} (here : listing.reads[other]? = some listing.era)
        (unknown : Function.update listing.results read (some result) other = none) : False := by
      obtain ⟨apart, unanswered⟩ := waiting unknown
      have same := (sound.alone other here unanswered).symm.trans mine
      exact apart (Option.some.inj same)
    simp only [if_pos current]
    cases result with
    | ok items =>
      constructor
      · intro other found held
        cases held
        exact ⟨current, Function.update_self ..⟩
      · exact fun _ reading => nomatch reading
      · exact fun other here unknown => (none_left here unknown).elim
      · exact sound.eras
      · exact ends
    | error error =>
      constructor
      · intro other found held
        obtain ⟨here, known⟩ := sound.held other found held
        exact ⟨here, others known⟩
      · exact fun _ reading => nomatch reading
      · exact fun other here unknown => (none_left here unknown).elim
      · exact sound.eras
      · exact ends
  · simp only [if_neg current]
    constructor
    · intro other found held
      obtain ⟨here, known⟩ := sound.held other found held
      exact ⟨here, others known⟩
    · intro other reading
      obtain ⟨here, unanswered⟩ := sound.underWay other reading
      have apart : other ≠ read := fun same => current (same ▸ here)
      exact ⟨here, (Function.update_of_ne apart _ _).trans unanswered⟩
    · exact fun other here unknown => sound.alone other here (waiting unknown).2
    · exact sound.eras
    · exact ends

theorem step (sound : listing.Sound) (event : Event ε) : (listing.after ttl event).Sound := by
  cases event with
  | items restart checkedAt touchedAt =>
    unfold after
    dsimp only
    split
    · exact sound.of_same rfl rfl rfl rfl rfl
    · exact sound.await
  | forget => exact sound.forget
  | expired =>
    unfold after
    dsimp only
    split
    · exact sound.forget
    · exact sound
  | ended read result touchedAt =>
    unfold after
    dsimp only
    split
    · rename_i waits
      exact sound.settle waits.1 waits.2 result touchedAt
    · exact sound

end Sound

theorem foundAt_succ {events : List (Event ε)} {number : Nat} {event : Event ε} (here : events[number]? = some event) :
    foundAt ttl events (number + 1) = (foundAt ttl events number).after ttl event := by
  rw [foundAt, List.take_add_one, here, Option.toList_some, List.foldl_append]
  rfl

theorem foundAt_over {events : List (Event ε)} {number : Nat} (beyond : events[number]? = none) :
    foundAt ttl events (number + 1) = foundAt ttl events number := by
  rw [foundAt, foundAt, List.take_add_one, beyond, Option.toList_none, List.append_nil]

theorem Sound.run (events : List (Event ε)) (number : Nat) : (foundAt ttl events number).Sound := by
  induction number with
  | zero => exact fresh_sound
  | succ number ih =>
    rcases here : events[number]? with _ | event
    · rw [foundAt_over here]
      exact ih
    · rw [foundAt_succ here]
      exact ih.step event

/-- The reads there have been stay, and the eras pass. -/
structure Follows (later earlier : VaultListing ε) : Prop where
  era : earlier.era ≤ later.era
  reads : earlier.reads <+: later.reads

theorem Follows.trans {last middle first : VaultListing ε} (follows : last.Follows middle)
    (before : middle.Follows first) : last.Follows first where
  era := before.era.trans follows.era
  reads := before.reads.trans follows.reads

theorem after_follows (listing : VaultListing ε) (event : Event ε) : (listing.after ttl event).Follows listing := by
  cases event with
  | items restart checkedAt touchedAt =>
    unfold after
    dsimp only
    split
    · exact ⟨le_rfl, List.prefix_rfl⟩
    · unfold await
      split
      · exact ⟨le_rfl, List.prefix_rfl⟩
      · exact ⟨le_rfl, List.prefix_append _ _⟩
  | forget => exact ⟨Nat.le_succ _, List.prefix_rfl⟩
  | expired =>
    unfold after
    dsimp only
    split
    · exact ⟨Nat.le_succ _, List.prefix_rfl⟩
    · exact ⟨le_rfl, List.prefix_rfl⟩
  | ended read result touchedAt =>
    unfold after
    dsimp only
    split
    · unfold settle
      dsimp only
      split
      · cases result with
        | ok items => exact ⟨le_rfl, List.prefix_rfl⟩
        | error error => exact ⟨le_rfl, List.prefix_rfl⟩
      · exact ⟨le_rfl, List.prefix_rfl⟩
    · exact ⟨le_rfl, List.prefix_rfl⟩

theorem foundAt_follows (events : List (Event ε)) {earlier later : Nat} (before : earlier ≤ later) :
    (foundAt ttl events later).Follows (foundAt ttl events earlier) := by
  induction later, before using Nat.le_induction with
  | base => exact ⟨le_rfl, List.prefix_rfl⟩
  | succ later before ih =>
    rcases here : events[later]? with _ | event
    · rw [foundAt_over here]
      exact ih
    · rw [foundAt_succ here]
      exact (after_follows _ event).trans ih

theorem after_drops {listing : VaultListing ε} {event : Event ε} (drops : listing.Drops event) :
    listing.after ttl event = listing.forget := by
  rcases drops with rfl | ⟨rfl, armed⟩
  · rfl
  · simp only [after, armed, if_true]

/-- Within an era nothing is dropped. -/
theorem era_kept {events : List (Event ε)} {earlier later : Nat} (before : earlier ≤ later)
    (calm : ∀ number event, earlier ≤ number → number < later → events[number]? = some event →
      ¬(foundAt ttl events number).Drops event) :
    (foundAt ttl events later).era = (foundAt ttl events earlier).era := by
  induction later, before using Nat.le_induction with
  | base => rfl
  | succ later before ih =>
    have same := ih fun number event after within => calm number event after (within.trans (Nat.lt_succ_self later))
    rcases here : events[later]? with _ | event
    · rw [foundAt_over here, same]
    · have kept := calm later event before (Nat.lt_succ_self later) here
      rw [foundAt_succ here, ← same]
      cases event with
      | items restart checkedAt touchedAt =>
        unfold after
        dsimp only
        split
        · rfl
        · unfold await
          split
          · rfl
          · rfl
      | forget => exact absurd (Or.inl rfl) kept
      | expired =>
        have idle : (foundAt ttl events later).expiry = false :=
          Bool.eq_false_iff.mpr fun armed => kept (Or.inr ⟨rfl, armed⟩)
        simp only [after, idle, Bool.false_eq_true, if_false]
      | ended read result touchedAt =>
        unfold after
        dsimp only
        split
        · unfold settle
          dsimp only
          split
          · cases result with
            | ok items => rfl
            | error error => rfl
          · rfl
        · rfl

/-- What a call is answered with, at once or in the end: a read of the era of the call. -/
theorem items_yields (ttl : Int) {listing : VaultListing ε} (sound : listing.Sound) (restart : Bool) (checkedAt touchedAt : Int) :
    ∃ read, (listing.after ttl (.items restart checkedAt touchedAt)).calls = listing.calls ++ [read] ∧
      (listing.after ttl (.items restart checkedAt touchedAt)).reads[read]? = some listing.era := by
  unfold after
  dsimp only
  rcases answered : listing.served ttl restart checkedAt with _ | read
  · unfold await
    rcases reading : listing.reading with _ | read
    · exact ⟨_, rfl, List.getElem?_concat_length⟩
    · exact ⟨read, rfl, (sound.underWay read reading).1⟩
  · refine ⟨read, rfl, ?_⟩
    unfold served at answered
    split at answered
    · rename_i held used items at_
      split at answered
      · cases answered
        exact (sound.held held.1 held.2 items).1
      · cases answered
    · cases answered

section Promise
variable (ttl)

/-- Two calls, the first of which is still waiting for its read when the second comes. -/
structure Overlap (events : List (Event ε)) (earlier later read : Nat) : Prop where
  order : earlier < later
  first : ∃ restart checkedAt touchedAt, events[earlier]? = some (.items restart checkedAt touchedAt)
  second : ∃ restart checkedAt touchedAt, events[later]? = some (.items restart checkedAt touchedAt)
  waits : (foundAt ttl events (earlier + 1)).calls = (foundAt ttl events earlier).calls ++ [read]
  pending : (foundAt ttl events later).results read = none

/-- Overlapping calls share one read of the store. -/
def SharesReads (events : List (Event ε)) : Prop :=
  ∀ earlier later read, Overlap ttl events earlier later read →
    (foundAt ttl events (later + 1)).reads = (foundAt ttl events later).reads

/-- Nothing is held after a read that failed. -/
def FailureLeavesNothing (events : List (Event ε)) : Prop :=
  ∀ number read error touchedAt, events[number]? = some (.ended read (.error error) touchedAt) →
    read < (foundAt ttl events number).reads.length → (foundAt ttl events number).results read = none →
      (foundAt ttl events (number + 1)).items = none

/-- A listing never outlives a forget. -/
structure NeverOutlives (events : List (Event ε)) : Prop where
  /-- A call after what is held was dropped is answered with a read that began after that. -/
  newer : ∀ dropped later event restart checkedAt touchedAt, dropped < later → events[dropped]? = some event →
    (foundAt ttl events dropped).Drops event → events[later]? = some (.items restart checkedAt touchedAt) →
      ∃ read, (foundAt ttl events (later + 1)).calls = (foundAt ttl events later).calls ++ [read] ∧
        (foundAt ttl events dropped).reads.length ≤ read
  /-- What is held is what its read brought. -/
  held : ∀ number read items, (foundAt ttl events number).items = some (read, items) →
    (foundAt ttl events number).results read = some (.ok items)
  /-- Overlapping calls share one read, unless what is held is dropped between them. -/
  shared : ∀ earlier later read, Overlap ttl events earlier later read →
    (∀ number event, earlier ≤ number → number < later → events[number]? = some event →
      ¬(foundAt ttl events number).Drops event) →
      (foundAt ttl events (later + 1)).reads = (foundAt ttl events later).reads
  /-- A failed read changes nothing of what is held, and no later call waits for it. -/
  failed : ∀ number read error touchedAt, events[number]? = some (.ended read (.error error) touchedAt) →
    (foundAt ttl events (number + 1)).items = (foundAt ttl events number).items ∧
      (foundAt ttl events (number + 1)).usedAt = (foundAt ttl events number).usedAt ∧
      (read < (foundAt ttl events number).reads.length → (foundAt ttl events (number + 1)).reading ≠ some read)

variable {ttl}

theorem shared_of_reading {listing : VaultListing ε} {read : Nat} (reading : listing.reading = some read)
    (restart : Bool) (checkedAt touchedAt : Int) :
    (listing.after ttl (.items restart checkedAt touchedAt)).reads = listing.reads := by
  unfold after
  dsimp only
  split
  · rfl
  · rw [await, reading]

theorem failed_keeps (ttl : Int) (listing : VaultListing ε) (read : Nat) (error : ε) (touchedAt : Int) :
    (listing.after ttl (.ended read (.error error) touchedAt)).items = listing.items ∧
      (listing.after ttl (.ended read (.error error) touchedAt)).usedAt = listing.usedAt := by
  unfold after
  dsimp only
  split
  · unfold settle
    dsimp only
    split
    · exact ⟨rfl, rfl⟩
    · exact ⟨rfl, rfl⟩
  · exact ⟨rfl, rfl⟩

/-- No call that comes later waits for a read that failed. -/
theorem failed_reading {listing : VaultListing ε} (sound : listing.Sound) {read : Nat} (begun : read < listing.reads.length)
    (error : ε) (touchedAt : Int) : (listing.after ttl (.ended read (.error error) touchedAt)).reading ≠ some read := by
  intro reading
  unfold after at reading
  dsimp only at reading
  by_cases pending : listing.results read = none
  · rw [if_pos ⟨begun, pending⟩] at reading
    unfold settle at reading
    dsimp only at reading
    by_cases current : listing.reads[read]? = some listing.era
    · rw [if_pos current] at reading
      cases reading
    · rw [if_neg current] at reading
      exact current (sound.underWay read reading).1
  · rw [if_neg fun waits => pending waits.2] at reading
    exact pending (sound.underWay read reading).2

/-- In every order of calls, forgetting, expiry and reads that succeed or fail, the listing never outlives a forget. -/
theorem listing_never_outlives (events : List (Event ε)) : NeverOutlives ttl events where
  newer dropped later event restart checkedAt touchedAt before here drops call := by
    have sound : (foundAt ttl events later).Sound := Sound.run events later
    obtain ⟨read, answered, era⟩ := items_yields ttl sound restart checkedAt touchedAt
    rw [← foundAt_succ call] at answered era
    refine ⟨read, answered, ?_⟩
    have past : (foundAt ttl events later).Follows (foundAt ttl events (dropped + 1)) := foundAt_follows events before
    rw [foundAt_succ here, after_drops drops] at past
    have all : (foundAt ttl events (later + 1)).Follows (foundAt ttl events dropped) := foundAt_follows events (by omega)
    by_contra older
    -- A read from before would be of an era that is over.
    obtain ⟨since, whole⟩ := all.reads
    rw [← whole, List.getElem?_append_left (by omega)] at era
    have early := (Sound.run events dropped).eras _ (List.mem_of_getElem? era)
    have passed : (foundAt ttl events dropped).era + 1 ≤ (foundAt ttl events later).era := past.era
    omega
  held number read items held := ((Sound.run events number).held read items held).2
  shared earlier later read overlap calm := by
    obtain ⟨restart, checkedAt, touchedAt, first⟩ := overlap.first
    obtain ⟨again, checkedAgain, touchedAgain, second⟩ := overlap.second
    obtain ⟨other, answered, era⟩ := items_yields ttl (Sound.run events earlier) restart checkedAt touchedAt
    rw [← foundAt_succ first] at answered era
    have same := List.append_cancel_left (answered.symm.trans overlap.waits)
    cases same
    have follows : (foundAt ttl events later).Follows (foundAt ttl events (earlier + 1)) :=
      foundAt_follows events overlap.order
    obtain ⟨since, whole⟩ := follows.reads
    have here : (foundAt ttl events later).reads[read]? = some (foundAt ttl events later).era := by
      rw [era_kept overlap.order.le calm, ← whole, List.getElem?_append_left (List.getElem?_eq_some_iff.mp era).1, era]
    rw [foundAt_succ second]
    exact shared_of_reading ((Sound.run events later).alone read here overlap.pending) again checkedAgain touchedAgain
  failed number read error touchedAt here := by
    rw [foundAt_succ here]
    obtain ⟨items, usedAt⟩ := failed_keeps ttl (foundAt ttl events number) read error touchedAt
    exact ⟨items, usedAt, fun begun => failed_reading (Sound.run events number) begun error touchedAt⟩

end Promise

end Runs

/-- The timer fires while a walk that starts again is reading, and the next call reads once more. -/
def expiredEvents : List (Event Unit) :=
  [.items true 0 0, .ended 0 (.ok []) 0, .items true 1 1, .expired, .items true 2 2]

/-- A walk that starts again fails to read. -/
def failedEvents : List (Event Unit) :=
  [.items true 0 0, .ended 0 (.ok []) 0, .items true 1 1, .ended 1 (.error ()) 2]

theorem listing_dropped : ¬SharesReads 30_000_000 expiredEvents ∧ ¬FailureLeavesNothing 30_000_000 failedEvents := by
  constructor
  · intro shares
    have overlap : Overlap 30_000_000 expiredEvents 2 4 1 :=
      ⟨by decide, ⟨_, _, _, rfl⟩, ⟨_, _, _, rfl⟩, by decide, by decide⟩
    exact absurd (shares 2 4 1 overlap) (by decide)
  · intro leaves
    have nothing := leaves 3 1 () 2 rfl (by decide) (by decide)
    exact absurd nothing (by decide)

end VaultListing

end BioAuth.Mobile
