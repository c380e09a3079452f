import BioAuth.Lib.Table
import BioAuth.Session.Channel

namespace BioAuth.Agent
open BioAuth
open BioAuth.Session (SecureChannel)

/-- The most sessions one phone may keep parked at once. -/
def maxSessionsPerDevice : Nat := 8

/-- A parked session's address: which phone, and which of its credentials. A phone that cannot say answers for any. -/
abbrev SessionKey := String × Option String

/-- A handshake that completed and is waiting for the verifier. -/
structure ParkedSession where
  channel : SecureChannel
  /-- The socket, by the number of the connection it came with. -/
  stream : Nat
  origin : String
  parkedAt : Nat
  deriving DecidableEq

abbrev Sessions := Table SessionKey ParkedSession

def ofDevice (deviceId : String) (key : SessionKey) : Bool := key.1 = deviceId

/-- The moment the pool is looked at, and which sockets the far end has left open and silent. -/
structure Moment where
  now : Nat
  answers : Nat → Bool

def fresh (idleTimeout : Nat) (moment : Moment) (session : ParkedSession) : Bool :=
  moment.now - session.parkedAt < idleTimeout && moment.answers session.stream

namespace Sessions

/-- Drops parked sessions that are past their window or already hung up. -/
def discardStale (idleTimeout : Nat) (moment : Moment) (sessions : Sessions) : Sessions :=
  sessions.retain fun _ session => fresh idleTimeout moment session

/-- Drops this device's oldest sessions until one more will fit. -/
def enforceSessionCap (deviceId : String) (sessions : Sessions) : Sessions :=
  sessions.evict (ofDevice deviceId) ParkedSession.parkedAt maxSessionsPerDevice sessions.entries.length

/-- Every credential of that phone. -/
def discardSessions (deviceId : String) (sessions : Sessions) : Sessions :=
  sessions.retain fun key _ => key.1 ≠ deviceId

/-- A phone that dials again for a credential it has parked replaces that entry and grows nothing. -/
def park (idleTimeout : Nat) (moment : Moment) (key : SessionKey) (session : ParkedSession) (sessions : Sessions) :
    Sessions :=
  let kept := discardStale idleTimeout moment sessions
  let kept := if (kept.get? key).isNone then enforceSessionCap key.1 kept else kept
  kept.insert key session

/-- The session that phone opened for that credential, or one that answers for anything. -/
def takeMatching (deviceId credentialId : String) (sessions : Sessions) : Option ParkedSession × Sessions :=
  let exact : SessionKey := (deviceId, some credentialId)
  match sessions.get? exact with
  | some session => (some session, sessions.remove exact)
  | none => (sessions.get? (deviceId, none), sessions.remove (deviceId, none))

/-- One round of waiting for a session. -/
def takeSession (idleTimeout : Nat) (moment : Moment) (deviceId credentialId : String) (sessions : Sessions) :
    Option ParkedSession × Sessions :=
  takeMatching deviceId credentialId (discardStale idleTimeout moment sessions)

variable {idleTimeout : Nat} {moment : Moment} {sessions : Sessions}

theorem takeMatching_sublist (deviceId credentialId : String) (sessions : Sessions) :
    (sessions.takeMatching deviceId credentialId).2.entries.Sublist sessions.entries := by
  unfold takeMatching
  dsimp only
  split
  · exact List.filter_sublist
  · exact List.filter_sublist

theorem takeMatching_mem {deviceId credentialId : String} {session : ParkedSession}
    (taken : (sessions.takeMatching deviceId credentialId).1 = some session) :
    ∃ key, (key, session) ∈ sessions.entries := by
  unfold takeMatching at taken
  dsimp only at taken
  split at taken
  · rename_i held exact
    cases taken
    exact ⟨_, Table.get?_eq_some.mp exact⟩
  · exact ⟨_, Table.get?_eq_some.mp taken⟩

theorem mem_discardStale {entry : SessionKey × ParkedSession} :
    entry ∈ (discardStale idleTimeout moment sessions).entries ↔
      entry ∈ sessions.entries ∧ fresh idleTimeout moment entry.2 = true :=
  Table.mem_retain

theorem enforced (deviceId : String) (sessions : Sessions) :
    Table.Evicted (ofDevice deviceId) ParkedSession.parkedAt maxSessionsPerDevice sessions
      (sessions.enforceSessionCap deviceId) :=
  Table.evicted (by decide) _ _ (List.length_filter_le _ _)

/-- Each device has at most as many sessions as it may. -/
def Capped (sessions : Sessions) : Prop :=
  ∀ deviceId, (Table.members (ofDevice deviceId) sessions).length ≤ maxSessionsPerDevice

theorem Capped.sublist (capped : sessions.Capped) {fewer : Sessions} (sublist : fewer.entries.Sublist sessions.entries) :
    fewer.Capped := fun deviceId =>
  (sublist.filter _).length_le.trans (capped deviceId)

theorem park_entries (idleTimeout : Nat) (moment : Moment) (key : SessionKey) (session : ParkedSession)
    (sessions : Sessions) :
    ∃ rest, rest.Sublist sessions.entries ∧
      (park idleTimeout moment key session sessions).entries = (key, session) :: rest := by
  unfold park
  dsimp only
  refine ⟨_, ?_, rfl⟩
  refine List.filter_sublist.trans ?_
  split
  · exact (enforced key.1 _).sublist.trans List.filter_sublist
  · exact List.filter_sublist

/-- What parking a session does to the pool. -/
structure Parked (idleTimeout : Nat) (moment : Moment) (key : SessionKey) (session : ParkedSession)
    (before after : Sessions) : Prop where
  present : (key, session) ∈ after.entries
  /-- Of another device only a stale session goes. -/
  others : ∀ entry, entry.1.1 ≠ key.1 →
    (entry ∈ after.entries ↔ entry ∈ before.entries ∧ fresh idleTimeout moment entry.2 = true)
  own : ∀ entry ∈ after.entries, entry ≠ (key, session) →
    entry ∈ before.entries ∧ entry.1 ≠ key ∧ fresh idleTimeout moment entry.2 = true
  /-- A session that is pushed out is none younger than the device's others, and the new key made it too many. -/
  evicted : ∀ gone ∈ before.entries, gone.1.1 = key.1 → gone.1 ≠ key → fresh idleTimeout moment gone.2 = true →
    gone ∉ after.entries →
      (∀ entry ∈ before.entries, entry.1 = key → fresh idleTimeout moment entry.2 = false) ∧
        maxSessionsPerDevice ≤ (Table.members (ofDevice key.1) (discardStale idleTimeout moment before)).length ∧
          ∀ kept ∈ after.entries, kept.1.1 = key.1 → kept.1 ≠ key → gone.2.parkedAt ≤ kept.2.parkedAt
  capped : before.Capped → after.Capped

theorem parked (idleTimeout : Nat) (moment : Moment) (key : SessionKey) (session : ParkedSession) (before : Sessions) :
    Parked idleTimeout moment key session before (park idleTimeout moment key session before) := by
  unfold park
  dsimp only
  rcases held : (discardStale idleTimeout moment before).get? key with _ | old
  · rw [Option.isNone_none, if_pos rfl]
    have room := enforced key.1 (discardStale idleTimeout moment before)
    have none := Table.get?_eq_none.mp held
    refine ⟨Table.mem_insert.mpr (Or.inl rfl), ?_, ?_, ?_, ?_⟩
    · intro entry other
      have unlike : entry.1 ≠ key := fun same => other (by rw [same])
      have apart : entry ≠ (key, session) := fun same => unlike (by rw [same])
      rw [Table.mem_insert, ← mem_discardStale]
      constructor
      · intro member
        exact room.sublist.subset (member.resolve_left apart).1
      · intro member
        exact Or.inr ⟨room.others entry member (decide_eq_false other), unlike⟩
    · intro entry member apart
      obtain ⟨inside, unlike⟩ := (Table.mem_insert.mp member).resolve_left apart
      obtain ⟨there, live⟩ := mem_discardStale.mp (room.sublist.subset inside)
      exact ⟨there, unlike, live⟩
    · intro gone there own unlike live missing
      have inside := mem_discardStale.mpr ⟨there, live⟩
      have pushed : gone ∉ (enforceSessionCap key.1 (discardStale idleTimeout moment before)).entries :=
        fun kept => missing (Table.mem_insert.mpr (Or.inr ⟨kept, unlike⟩))
      refine ⟨?_, ?_, ?_⟩
      · intro entry member same
        rw [← Bool.not_eq_true]
        intro alive
        exact none entry (mem_discardStale.mpr ⟨member, alive⟩) same
      · by_contra few
        have same := room.spare (by omega)
        rw [same] at pushed
        exact pushed inside
      · intro kept member mine apart
        have differs : kept ≠ (key, session) := fun same => apart (by rw [same])
        have left := ((Table.mem_insert.mp member).resolve_left differs).1
        exact room.lowest gone inside pushed kept (Table.mem_members.mpr ⟨left, decide_eq_true mine⟩)
    · intro capped deviceId
      have within := (capped.sublist List.filter_sublist).sublist room.sublist
      have fewer : (Table.members (ofDevice deviceId)
            (Table.remove key (enforceSessionCap key.1 (discardStale idleTimeout moment before)))).length ≤
          (Table.members (ofDevice deviceId)
            (enforceSessionCap key.1 (discardStale idleTimeout moment before))).length := Table.members_remove_le key _
      rw [Table.members_insert]
      by_cases mine : ofDevice deviceId key = true
      · have same : key.1 = deviceId := of_decide_eq_true mine
        subst same
        have fits := room.fits
        rw [if_pos mine]
        omega
      · rw [if_neg mine]
        exact fewer.trans (within deviceId)
  · rw [Option.isNone_some, if_neg Bool.noConfusion]
    have inside := Table.get?_eq_some.mp held
    refine ⟨Table.mem_insert.mpr (Or.inl rfl), ?_, ?_, ?_, ?_⟩
    · intro entry other
      have unlike : entry.1 ≠ key := fun same => other (by rw [same])
      have apart : entry ≠ (key, session) := fun same => unlike (by rw [same])
      rw [Table.mem_insert, ← mem_discardStale]
      constructor
      · intro member
        exact (member.resolve_left apart).1
      · intro member
        exact Or.inr ⟨member, unlike⟩
    · intro entry member apart
      obtain ⟨left, unlike⟩ := (Table.mem_insert.mp member).resolve_left apart
      obtain ⟨there, live⟩ := mem_discardStale.mp left
      exact ⟨there, unlike, live⟩
    · intro gone there _ unlike live missing
      exact absurd (Table.mem_insert.mpr (Or.inr ⟨mem_discardStale.mpr ⟨there, live⟩, unlike⟩)) missing
    · intro capped deviceId
      have within : (discardStale idleTimeout moment before).Capped := capped.sublist List.filter_sublist
      exact (Table.members_replace inside session).trans (within deviceId)

end Sessions

end BioAuth.Agent
