import BioAuth.Agent.Pool

namespace BioAuth.Agent
open BioAuth
open BioAuth.Session (SecureChannel)

namespace Sessions

/-- What taking a session for a credential does to the pool. -/
structure Taken (idleTimeout : Nat) (moment : Moment) (deviceId credentialId : String) (before : Sessions)
    (taken : Option ParkedSession) (after : Sessions) : Prop where
  /-- The session is one of that credential, or one of none where that credential has none. -/
  found : ∀ session, taken = some session → fresh idleTimeout moment session = true ∧
    (((deviceId, some credentialId), session) ∈ before.entries ∨ ((deviceId, none), session) ∈ before.entries ∧
      ∀ entry ∈ before.entries, entry.1 = (deviceId, some credentialId) → fresh idleTimeout moment entry.2 = false)
  missing : taken = none → ∀ entry ∈ before.entries, entry.1 = (deviceId, some credentialId) ∨ entry.1 = (deviceId, none) →
    fresh idleTimeout moment entry.2 = false
  sublist : after.entries.Sublist before.entries
  gone : ∀ session, taken = some session → ∃ key, (key, session) ∈ before.entries ∧ ∀ entry ∈ after.entries, entry.1 ≠ key
  others : ∀ entry, entry.1.1 ≠ deviceId →
    (entry ∈ after.entries ↔ entry ∈ before.entries ∧ fresh idleTimeout moment entry.2 = true)

theorem taken (idleTimeout : Nat) (moment : Moment) (deviceId credentialId : String) (before : Sessions) :
    Taken idleTimeout moment deviceId credentialId before (takeSession idleTimeout moment deviceId credentialId before).1
      (takeSession idleTimeout moment deviceId credentialId before).2 := by
  have others (key : SessionKey) (mine : key.1 = deviceId) (entry : SessionKey × ParkedSession)
      (other : entry.1.1 ≠ deviceId) :
      entry ∈ (Table.remove key (discardStale idleTimeout moment before)).entries ↔
        entry ∈ before.entries ∧ fresh idleTimeout moment entry.2 = true := by
    rw [Table.mem_remove, mem_discardStale]
    exact and_iff_left fun same => other (by rw [same, mine])
  have sublist (key : SessionKey) :
      (Table.remove key (discardStale idleTimeout moment before)).entries.Sublist before.entries :=
    List.filter_sublist.trans List.filter_sublist
  have leaves (key : SessionKey) (session : ParkedSession)
      (held : (key, session) ∈ (discardStale idleTimeout moment before).entries) :
      ∃ key', (key', session) ∈ before.entries ∧
        ∀ entry ∈ (Table.remove key (discardStale idleTimeout moment before)).entries, entry.1 ≠ key' :=
    ⟨key, (mem_discardStale.mp held).1, fun _ member => (Table.mem_remove.mp member).2⟩
  unfold takeSession takeMatching
  dsimp only
  rcases exact : (discardStale idleTimeout moment before).get? (deviceId, some credentialId) with _ | session
  · have named := Table.get?_eq_none.mp exact
    have stale : ∀ entry ∈ before.entries, entry.1 = (deviceId, some credentialId) →
        fresh idleTimeout moment entry.2 = false := by
      intro entry member same
      rw [← Bool.not_eq_true]
      intro alive
      exact named entry (mem_discardStale.mpr ⟨member, alive⟩) same
    refine ⟨?_, ?_, sublist _, ?_, others _ rfl⟩
    · intro session found
      obtain ⟨member, alive⟩ := mem_discardStale.mp (Table.get?_eq_some.mp found)
      exact ⟨alive, Or.inr ⟨member, stale⟩⟩
    · intro missing entry member either
      rcases either with same | same
      · exact stale entry member same
      · rw [← Bool.not_eq_true]
        intro alive
        exact Table.get?_eq_none.mp missing entry (mem_discardStale.mpr ⟨member, alive⟩) same
    · intro session found
      exact leaves _ session (Table.get?_eq_some.mp found)
  · have held := Table.get?_eq_some.mp exact
    obtain ⟨member, alive⟩ := mem_discardStale.mp held
    refine ⟨?_, nofun, sublist _, ?_, others _ rfl⟩
    · intro other found
      cases found
      exact ⟨alive, Or.inl member⟩
    · intro other found
      cases found
      exact leaves _ session held

end Sessions

/-- The parked sessions, and how many connections have been parked so far. -/
structure Pool where
  sessions : Sessions
  parked : Nat

/-- A critical section of the pool, or a map that goes through its entries in another order from now on. -/
inductive Visit
  | park (key : SessionKey) (channel : SecureChannel) (origin : String) (moment : Moment)
  | take (deviceId credentialId : String) (moment : Moment)
  | discard (deviceId : String)
  | sweep (moment : Moment)
  | rearrange (entries : List (SessionKey × ParkedSession))

namespace Pool

def start : Pool := ⟨Table.empty, 0⟩

variable (idleTimeout : Nat)

/-- The session a connection parks. Each connection has a socket of its own. -/
def arriving (pool : Pool) (channel : SecureChannel) (origin : String) (moment : Moment) : ParkedSession :=
  ⟨channel, pool.parked, origin, moment.now⟩

def after (pool : Pool) : Visit → Pool
  | .park key channel origin moment =>
    ⟨pool.sessions.park idleTimeout moment key (pool.arriving channel origin moment), pool.parked + 1⟩
  | .take deviceId credentialId moment =>
    { pool with sessions := (pool.sessions.takeSession idleTimeout moment deviceId credentialId).2 }
  | .discard deviceId => { pool with sessions := pool.sessions.discardSessions deviceId }
  | .sweep moment => { pool with sessions := pool.sessions.discardStale idleTimeout moment }
  | .rearrange entries =>
    if same : entries.Perm pool.sessions.entries then { pool with sessions := Table.rearranged pool.sessions entries same }
    else pool

/-- The session a visit hands out. -/
def returned (pool : Pool) : Visit → Option ParkedSession
  | .take deviceId credentialId moment => (pool.sessions.takeSession idleTimeout moment deviceId credentialId).1
  | _ => none

def afterAll (pool : Pool) (visits : List Visit) : Pool := visits.foldl (after idleTimeout) pool

/-- The sessions handed out along a run. -/
def handedOut (pool : Pool) : List Visit → List ParkedSession
  | [] => []
  | visit :: visits =>
    (pool.returned idleTimeout visit).toList ++ (pool.after idleTimeout visit).handedOut visits

variable {idleTimeout}

/-- No device has too many sessions, and each socket is in one place. -/
structure Sound (pool : Pool) (out : List ParkedSession) : Prop where
  capped : pool.sessions.Capped
  parked : (pool.sessions.entries.map fun entry => entry.2.stream).Nodup
  once : (out.map ParkedSession.stream).Nodup
  apart : ∀ entry ∈ pool.sessions.entries, ∀ session ∈ out, entry.2.stream ≠ session.stream
  held : ∀ entry ∈ pool.sessions.entries, entry.2.stream < pool.parked
  handed : ∀ session ∈ out, session.stream < pool.parked

theorem start_sound : start.Sound [] :=
  ⟨fun _ => Nat.zero_le _, List.nodup_nil, List.nodup_nil, nofun, nofun, nofun⟩

/-- What takes sessions away keeps the rest in order. -/
theorem Sound.fewer {pool : Pool} {out : List ParkedSession} (sound : pool.Sound out) {sessions : Sessions}
    (sublist : sessions.entries.Sublist pool.sessions.entries) : Sound { pool with sessions } out where
  capped := sound.capped.sublist sublist
  parked := sound.parked.sublist (sublist.map _)
  once := sound.once
  apart entry member := sound.apart entry (sublist.subset member)
  held entry member := sound.held entry (sublist.subset member)
  handed := sound.handed

theorem Sound.park {pool : Pool} {out : List ParkedSession} (sound : pool.Sound out) (key : SessionKey)
    (channel : SecureChannel) (origin : String) (moment : Moment) :
    (pool.after idleTimeout (.park key channel origin moment)).Sound out := by
  have done := Sessions.parked idleTimeout moment key (pool.arriving channel origin moment) pool.sessions
  obtain ⟨rest, sublist, entries⟩ := Sessions.park_entries idleTimeout moment key (pool.arriving channel origin moment)
    pool.sessions
  unfold after
  refine ⟨done.capped sound.capped, ?_, sound.once, ?_, ?_, fun session member => Nat.lt_succ_of_lt (sound.handed session member)⟩
  · dsimp only
    rw [entries, List.map_cons]
    refine List.nodup_cons.mpr ⟨?_, sound.parked.sublist (sublist.map _)⟩
    intro member
    obtain ⟨entry, there, same⟩ := List.mem_map.mp member
    have earlier := sound.held entry (sublist.subset there)
    rw [same] at earlier
    exact absurd earlier (Nat.lt_irrefl _)
  · intro entry member session given
    dsimp only at member
    rw [entries] at member
    rcases List.mem_cons.mp member with rfl | there
    · exact (sound.handed session given).ne'
    · exact sound.apart entry (sublist.subset there) session given
  · intro entry member
    dsimp only at member ⊢
    rw [entries] at member
    rcases List.mem_cons.mp member with rfl | there
    · exact Nat.lt_succ_self _
    · exact Nat.lt_succ_of_lt (sound.held entry (sublist.subset there))

theorem Sound.take {pool : Pool} {out : List ParkedSession} (sound : pool.Sound out) (deviceId credentialId : String)
    (moment : Moment) :
    (pool.after idleTimeout (.take deviceId credentialId moment)).Sound
      (out ++ (pool.returned idleTimeout (.take deviceId credentialId moment)).toList) := by
  have done := Sessions.taken idleTimeout moment deviceId credentialId pool.sessions
  have left := sound.fewer done.sublist
  unfold returned
  dsimp only
  rcases given : (pool.sessions.takeSession idleTimeout moment deviceId credentialId).1 with _ | session
  · rw [Option.toList_none, List.append_nil]
    exact left
  · obtain ⟨key, member, gone⟩ := done.gone session given
    rw [Option.toList_some]
    refine ⟨left.capped, left.parked, ?_, ?_, left.held, ?_⟩
    · rw [List.map_append, List.map_singleton]
      refine List.nodup_append.mpr ⟨sound.once, List.nodup_singleton _, ?_⟩
      intro stream before other last same
      obtain ⟨earlier, out, named⟩ := List.mem_map.mp before
      rw [List.mem_singleton.mp last] at same
      exact sound.apart _ member earlier out (by rw [named, same])
    · intro entry inside other before
      rcases List.mem_append.mp before with out | last
      · exact left.apart entry inside other out
      · rw [List.mem_singleton.mp last]
        intro same
        have self := List.inj_on_of_nodup_map sound.parked (done.sublist.subset inside) member same
        exact gone entry inside (by rw [self])
    · intro other before
      rcases List.mem_append.mp before with out | last
      · exact sound.handed other out
      · rw [List.mem_singleton.mp last]
        exact sound.held _ member

theorem Sound.step {pool : Pool} {out : List ParkedSession} (sound : pool.Sound out) (visit : Visit) :
    (pool.after idleTimeout visit).Sound (out ++ (pool.returned idleTimeout visit).toList) := by
  have quiet {next : Pool} (kept : next.Sound out) : next.Sound (out ++ (none : Option ParkedSession).toList) := by
    rwa [Option.toList_none, List.append_nil]
  cases visit with
  | park key channel origin moment => exact quiet (sound.park key channel origin moment)
  | take deviceId credentialId moment => exact sound.take deviceId credentialId moment
  | discard deviceId => exact quiet (sound.fewer List.filter_sublist)
  | sweep moment => exact quiet (sound.fewer List.filter_sublist)
  | rearrange entries =>
    refine quiet ?_
    change Sound (if same : entries.Perm pool.sessions.entries then
      { pool with sessions := Table.rearranged pool.sessions entries same } else pool) out
    by_cases same : entries.Perm pool.sessions.entries
    · rw [dif_pos same]
      refine ⟨fun deviceId => ?_, ?_, sound.once, ?_, ?_, sound.handed⟩
      · exact ((same.filter _).length_eq).le.trans (sound.capped deviceId)
      · exact (same.map _).nodup_iff.mpr sound.parked
      · exact fun entry member => sound.apart entry (same.subset member)
      · exact fun entry member => sound.held entry (same.subset member)
    · rw [dif_neg same]
      exact sound

theorem Sound.run {pool : Pool} {out : List ParkedSession} (sound : pool.Sound out) (visits : List Visit) :
    (pool.afterAll idleTimeout visits).Sound (out ++ pool.handedOut idleTimeout visits) := by
  induction visits generalizing pool out with
  | nil => rwa [handedOut, List.append_nil]
  | cons visit visits ih =>
    rw [handedOut, ← List.append_assoc]
    exact ih (sound.step visit)

/-- The session was parked under the key by one of the visits. -/
def ParkedUnder (idleTimeout : Nat) (visits : List Visit) (key : SessionKey) (session : ParkedSession) : Prop :=
  ∃ earlier channel origin moment later, visits = earlier ++ .park key channel origin moment :: later ∧
    session = (start.afterAll idleTimeout earlier).arriving channel origin moment

/-- A visit adds no session but the one it parks. -/
theorem entries_after {pool : Pool} {visit : Visit} {entry : SessionKey × ParkedSession}
    (member : entry ∈ (pool.after idleTimeout visit).sessions.entries) :
    entry ∈ pool.sessions.entries ∨ ∃ key channel origin moment, visit = .park key channel origin moment ∧
      entry = (key, pool.arriving channel origin moment) := by
  cases visit with
  | park key channel origin moment =>
    by_cases new : entry = (key, pool.arriving channel origin moment)
    · exact Or.inr ⟨key, channel, origin, moment, rfl, new⟩
    · exact Or.inl ((Sessions.parked idleTimeout moment key _ pool.sessions).own entry member new).1
  | take deviceId credentialId moment => exact Or.inl ((Sessions.taken idleTimeout moment _ _ _).sublist.subset member)
  | discard deviceId => exact Or.inl (Table.mem_retain.mp member).1
  | sweep moment => exact Or.inl (Sessions.mem_discardStale.mp member).1
  | rearrange entries =>
    change entry ∈ (if same : entries.Perm pool.sessions.entries then
      { pool with sessions := Table.rearranged pool.sessions entries same } else pool).sessions.entries at member
    by_cases same : entries.Perm pool.sessions.entries
    · rw [dif_pos same] at member
      exact Or.inl (same.subset member)
    · rw [dif_neg same] at member
      exact Or.inl member

theorem parkedUnder (visits : List Visit) {entry : SessionKey × ParkedSession}
    (member : entry ∈ (start.afterAll idleTimeout visits).sessions.entries) :
    ParkedUnder idleTimeout visits entry.1 entry.2 := by
  induction visits using List.reverseRecOn with
  | nil => cases member
  | append_singleton visits visit ih =>
    rw [afterAll, List.foldl_append] at member
    rcases entries_after member with before | ⟨key, channel, origin, moment, rfl, rfl⟩
    · obtain ⟨earlier, channel, origin, moment, later, rfl, same⟩ := ih before
      exact ⟨earlier, channel, origin, moment, later ++ [visit], by rw [List.append_assoc, List.cons_append], same⟩
    · exact ⟨visits, channel, origin, moment, [], rfl, rfl⟩

/-- What may be relied on of the pool after a run, whatever was parked, taken and dropped. -/
structure Orderly (idleTimeout : Nat) (visits : List Visit) (pool : Pool) (out : List ParkedSession) : Prop where
  capped : pool.sessions.Capped
  once : (out.map ParkedSession.stream).Nodup
  parks : ∀ key channel origin moment,
    Sessions.Parked idleTimeout moment key (pool.arriving channel origin moment) pool.sessions
      (pool.after idleTimeout (.park key channel origin moment)).sessions
  takes : ∀ deviceId credentialId moment,
    Sessions.Taken idleTimeout moment deviceId credentialId pool.sessions
      (pool.returned idleTimeout (.take deviceId credentialId moment))
      (pool.after idleTimeout (.take deviceId credentialId moment)).sessions
  /-- A session that is handed out was parked by that device, for that credential or for none. -/
  takesOwn : ∀ deviceId credentialId moment session,
    pool.returned idleTimeout (.take deviceId credentialId moment) = some session →
      ParkedUnder idleTimeout visits (deviceId, some credentialId) session ∨
        ParkedUnder idleTimeout visits (deviceId, none) session
  /-- It was never handed out before. -/
  takesOnce : ∀ deviceId credentialId moment session,
    pool.returned idleTimeout (.take deviceId credentialId moment) = some session →
      ∀ earlier ∈ out, earlier.stream ≠ session.stream

/-- The pool is in order after every run of parks, takes, discards and sweeps. -/
theorem pool_orderly (idleTimeout : Nat) (visits : List Visit) :
    Orderly idleTimeout visits (start.afterAll idleTimeout visits) (start.handedOut idleTimeout visits) := by
  have sound : (start.afterAll idleTimeout visits).Sound ([] ++ start.handedOut idleTimeout visits) :=
    start_sound.run visits
  rw [List.nil_append] at sound
  refine ⟨sound.capped, sound.once, fun key channel origin moment => Sessions.parked _ _ _ _ _,
    fun deviceId credentialId moment => Sessions.taken _ _ _ _ _, ?_, ?_⟩
  · intro deviceId credentialId moment session given
    rcases ((Sessions.taken idleTimeout moment deviceId credentialId _).found session given).2 with own | ⟨any, _⟩
    · exact Or.inl (parkedUnder visits own)
    · exact Or.inr (parkedUnder visits any)
  · intro deviceId credentialId moment session given earlier before
    obtain ⟨key, member, _⟩ := (Sessions.taken idleTimeout moment deviceId credentialId _).gone session given
    exact fun same => sound.apart _ member earlier before same.symm

section Plain

def plainChannel : SecureChannel :=
  ⟨Block.replicate 32 1, Block.replicate 32 2, Block.replicate 32 3, 0, 0⟩

/-- A phone that comes back after the idle window takes the session of another one with it. -/
theorem stale_session_dropped :
    let earlier := start.after 300000 (.park ("tablet", none) plainChannel "desk" ⟨0, fun _ => true⟩)
    let later := earlier.after 300000 (.park ("phone", none) plainChannel "desk" ⟨300000, fun _ => true⟩)
    earlier.sessions.entries.map Prod.fst = [("tablet", none)] ∧ later.sessions.entries.map Prod.fst = [("phone", none)] := by
  decide +kernel

end Plain

end Pool

end BioAuth.Agent
