import BioAuth.Agent.Forgetting
import BioAuth.Agent.LinkHub

namespace BioAuth.Agent
open BioAuth
open BioAuth.Session (Identities IoError plainKey)

section Runs
variable [Identities]

/-- `serve_link` has returned, and no longer listens. -/
def LinkStage.returned : LinkStage → Bool
  | .serving (.failed _) | .finishing => true
  | _ => false

/-- A session has been parked, or will not be. -/
def LinkStage.past : LinkStage → Bool
  | .relaying => true
  | stage => stage.returned

/-- Such a link is not in `serve_link` any more. -/
def LinkStage.gone : LinkStage → Bool
  | .serving (.ended _) => true
  | _ => false

@[simp] theorem LinkStage.after_gone (link : Link) : (after link).gone = false := by
  cases link with
  | ended result => cases result <;> rfl
  | _ => rfl

/-- The one link there is. -/
structure Holder (server : BleServer) (task : LinkTask) : Prop where
  active : server.hub.active = some task.id
  below : task.id < server.hub.nextId
  queued : ∀ item ∈ task.rawIncoming, server.written[item.1]? = some (task.id, item.2)
  going : task.stage.gone = false
  parked : server.receives task.id → task.stage.past

/-- At most one link is there, and it is the active one. What is fed to a decoder was written while its link was active,
and a session is of a link that has been begun. -/
structure BleServer.Sound (server : BleServer) : Prop where
  links : server.links = [] ∧ server.hub.active = none ∨ ∃ task, server.links = [task] ∧ Holder server task
  fed : ∀ feed ∈ server.fed, ∃ value, server.written[feed.1]? = some (feed.2, value)
  known : ∀ id, server.receives id → id < server.hub.nextId

section Changes
variable {server : BleServer} {task : LinkTask}

theorem BleServer.initial_sound : BleServer.initial.Sound where
  links := Or.inl ⟨rfl, rfl⟩
  fed := nofun
  known := nofun

/-- The link that a number picks is the one there is. -/
theorem BleServer.Sound.holder (sound : server.Sound) {place : Nat} (found : server.links[place]? = some task) :
    server.links = [task] ∧ place = 0 ∧ Holder server task := by
  rcases sound.links with ⟨none, _⟩ | ⟨only, one, holder⟩
  · rw [none] at found
    cases found
  · rw [one] at found ⊢
    cases place with
    | zero =>
      cases found
      exact ⟨rfl, rfl, holder⟩
    | succ place => cases found

/-- A link goes on, or not, with what it had been written. -/
theorem BleServer.Sound.put (sound : server.Sound) {place : Nat} (found : server.links[place]? = some task)
    {later : LinkTask} (same : later.id = task.id) (queue : later.rawIncoming ⊆ task.rawIncoming)
    (going : later.stage.gone = false) (past : task.stage.past → later.stage.past) :
    (server.put place later).Sound := by
  obtain ⟨one, rfl, holder⟩ := sound.holder found
  refine ⟨Or.inr ⟨later, ?_, ?_⟩, sound.fed, sound.known⟩
  · rw [BleServer.put, one]
    rfl
  · refine ⟨same ▸ holder.active, same ▸ holder.below, fun item member => ?_, going, fun receives => past ?_⟩
    · rw [same]
      exact holder.queued item (queue member)
    · exact holder.parked (same ▸ receives)

/-- Sessions go, or change hands. -/
theorem BleServer.Sound.fewer (sound : server.Sound) {state : BleState} {taken : List BleSession}
    (fewer : ∀ id, { server with state, taken }.receives id → server.receives id) :
    { server with state, taken }.Sound where
  links := sound.links.imp id fun ⟨task, one, holder⟩ =>
    ⟨task, one, holder.active, holder.below, holder.queued, holder.going,
      fun receives => holder.parked (fewer _ receives)⟩
  fed := sound.fed
  known id receives := sound.known id (fewer id receives)

theorem BleServer.receives_iff {id : Nat} : server.receives id ↔
    (∃ entry ∈ server.state.sessions.entries, entry.2.stream = id) ∨ ∃ session ∈ server.taken, session.link = id := by
  simp only [receives, parks, Bool.or_eq_true, List.any_eq_true, decide_eq_true_eq]

theorem BleServer.receives_of_subset {state : BleState} {taken : List BleSession}
    (sessions : state.sessions.entries ⊆ server.state.sessions.entries)
    (links : ∀ session ∈ taken, server.receives session.link) (id : Nat)
    (receives : { server with state, taken }.receives id) : server.receives id := by
  rcases receives_iff.mp receives with ⟨entry, member, same⟩ | ⟨session, member, same⟩
  · exact receives_iff.mpr (Or.inl ⟨entry, sessions member, same⟩)
  · exact same ▸ links session member

/-- A link is begun where there is none. -/
theorem BleServer.Sound.subscribe (sound : server.Sound) (free : server.hub.active = none) :
    BleServer.Sound { server with
      hub := ⟨server.hub.nextId + 1, some server.hub.nextId⟩
      links := server.links ++ [⟨server.hub.nextId, true, .serving .accepted, [], .initial, []⟩] } := by
  have none : server.links = [] := by
    rcases sound.links with ⟨none, _⟩ | ⟨task, _, holder⟩
    · exact none
    · rw [holder.active] at free
      cases free
  refine ⟨Or.inr ⟨⟨server.hub.nextId, true, .serving .accepted, [], .initial, []⟩, ?_, rfl, Nat.lt_succ_self _, nofun,
    rfl, fun receives => ?_⟩, sound.fed, fun id receives => ?_⟩
  · rw [none]
    rfl
  · exact absurd (sound.known _ receives) (Nat.lt_irrefl _)
  · exact Nat.lt_succ_of_lt (sound.known id receives)

theorem BleServer.Sound.write (sound : server.Sound) {id : Nat} (value : Bytes) (active : server.hub.active = some id) :
    { server with
      links := server.links.map fun (task : LinkTask) =>
        if task.id = id then { task with rawIncoming := task.rawIncoming ++ [(server.written.length, value)] }
        else task
      written := server.written ++ [(id, value)] }.Sound := by
  have kept : ∀ {place : Nat} {item : Nat × Bytes}, server.written[place]? = some item →
      (server.written ++ [(id, value)])[place]? = some item := fun found =>
    (List.getElem?_append_left (List.getElem?_eq_some_iff.mp found).1).trans found
  refine ⟨?_, fun feed member => (sound.fed feed member).imp fun _ => kept, sound.known⟩
  rcases sound.links with ⟨none, free⟩ | ⟨task, one, holder⟩
  · exact Or.inl ⟨by rw [none]; rfl, free⟩
  · obtain rfl : id = task.id := Option.some.inj (active.symm.trans holder.active)
    refine Or.inr ⟨{ task with rawIncoming := task.rawIncoming ++ [(server.written.length, value)] }, ?_, holder.active,
      holder.below, fun item member => ?_, holder.going, holder.parked⟩
    · rw [one, List.map_singleton, if_pos rfl]
    · rcases List.mem_append.mp member with earlier | last
      · exact kept (holder.queued item earlier)
      · rw [List.mem_singleton.mp last]
        exact List.getElem?_concat_length

theorem BleServer.Sound.finish (sound : server.Sound) {place : Nat} (found : server.links[place]? = some task) :
    { server with hub := server.hub.finish task.id, links := server.links.eraseIdx place }.Sound := by
  obtain ⟨one, rfl, holder⟩ := sound.holder found
  have freed : server.hub.finish task.id = { server.hub with active := none } := if_pos holder.active
  rw [freed]
  exact ⟨Or.inl ⟨by rw [one]; rfl, rfl⟩, sound.fed, sound.known⟩

theorem BleServer.Sound.feed (sound : server.Sound) {place : Nat} (found : server.links[place]? = some task)
    {number : Nat} {value : Bytes} (next : (number, value) ∈ task.rawIncoming) :
    { server with fed := server.fed ++ [(number, task.id)] }.Sound where
  links := sound.links.imp id fun ⟨only, one, holder⟩ =>
    ⟨only, one, holder.active, holder.below, holder.queued, holder.going, holder.parked⟩
  fed feed member := by
    rcases List.mem_append.mp member with earlier | last
    · exact sound.fed feed earlier
    · rw [List.mem_singleton.mp last]
      exact ⟨value, (sound.holder found).2.2.queued _ next⟩
  known := sound.known

theorem BleServer.Sound.push (sound : server.Sound) (link : Nat) (record : Bytes) :
    { server with links := server.links.map fun (task : LinkTask) =>
        if task.id = link ∧ task.relays then { task with outgoing := task.outgoing ++ [record] } else task }.Sound := by
  refine ⟨?_, sound.fed, sound.known⟩
  rcases sound.links with ⟨none, free⟩ | ⟨task, one, holder⟩
  · exact Or.inl ⟨by rw [none]; rfl, free⟩
  · refine Or.inr ⟨_, by rw [one]; rfl, ?_⟩
    dsimp only
    split
    · exact ⟨holder.active, holder.below, holder.queued, holder.going, holder.parked⟩
    · exact ⟨holder.active, holder.below, holder.queued, holder.going, holder.parked⟩

/-- A session that has been taken changes, but not the link it is of. -/
theorem BleServer.Sound.replace (sound : server.Sound) {place : Nat} {session later : BleSession}
    (found : server.taken[place]? = some session) (same : later.link = session.link) :
    { server with taken := server.taken.set place later }.Sound := by
  refine sound.fewer (receives_of_subset (List.Subset.refl _) fun other member => receives_iff.mpr (Or.inr ?_))
  rcases List.mem_or_eq_of_mem_set member with old | rfl
  · exact ⟨other, old, rfl⟩
  · exact ⟨session, List.mem_of_getElem? found, same.symm⟩

end Changes

variable [Crypto] {shared : Shared} {server later : BleServer} {task : LinkTask} {place : Nat} {env : Surroundings}

omit [Identities] [Crypto] in
theorem LinkStage.past_serving [Identities] {link : Link} (past : (LinkStage.serving link).past) :
    ∃ error, link = .failed error := by
  cases link with
  | failed error => exact ⟨error, rfl⟩
  | _ => cases past

/-- A session that a step of a link adds is the link's own, and then the link is parked. -/
theorem serveLink_sessions {number : Nat} {state : BleState} {link : Link} {entry : SessionKey × ParkedSession}
    (here : entry ∈ (serveLink shared number env state link).1.sessions.entries) :
    entry ∈ state.sessions.entries ∨
      entry.2.stream = number ∧ (serveLink shared number env state link).2 = .ended (.ok ()) := by
  cases link with
  | attached outcome credentialId =>
    rcases Table.mem_insert.mp here with rfl | ⟨kept, _⟩
    · exact Or.inr ⟨rfl, rfl⟩
    · exact Or.inl (Table.mem_retain.mp kept).1
  | accepted | greeted | answered | attaching | failed | ended => exact Or.inl here

theorem BleServer.Sound.serve (sound : server.Sound) (found : server.links[place]? = some task) {link : Link}
    (at_link : task.stage = .serving link) {busy : LinkTask} (same : busy.id = task.id)
    (queue : busy.rawIncoming ⊆ task.rawIncoming) : (server.serve shared place env busy link).Sound := by
  obtain ⟨one, rfl, holder⟩ := sound.holder found
  -- A session that is read from now was before, or is this link's own.
  have receives : ∀ id, (server.serve shared 0 env busy link).receives id → server.receives id ∨
      id = task.id ∧ (LinkStage.after (serveLink shared busy.id (busy.surroundings env) server.state link).2).past := by
    intro id receives
    rcases receives_iff.mp receives with ⟨entry, member, stream⟩ | held
    · rcases serveLink_sessions member with old | ⟨own, parked⟩
      · exact Or.inl (receives_iff.mpr (Or.inl ⟨entry, old, stream⟩))
      · refine Or.inr ⟨stream.symm.trans (own.trans same), ?_⟩
        rw [parked]
        rfl
    · exact Or.inl (receives_iff.mpr (Or.inr held))
  refine ⟨Or.inr ⟨{ busy with stage := .after (serveLink shared busy.id (busy.surroundings env) server.state link).2 },
    ?_, ?_⟩, sound.fed, fun id read => ?_⟩
  · change server.links.set 0 _ = _
    rw [one]
    rfl
  · refine ⟨same ▸ holder.active, same ▸ holder.below, fun item member => ?_, LinkStage.after_gone _, fun read => ?_⟩
    · rw [same]
      exact holder.queued item (queue member)
    · rcases receives _ read with before | ⟨_, past⟩
      · have past := holder.parked (same ▸ before)
        rw [at_link] at past
        obtain ⟨error, rfl⟩ := LinkStage.past_serving past
        rfl
      · exact past
  · rcases receives id read with before | ⟨rfl, _⟩
    · exact sound.known id before
    · exact holder.below

/-- What a link hears leaves all sound. -/
theorem BleServer.Sound.hear (sound : server.Sound) (found : server.links[place]? = some task) {busy : LinkTask}
    (same : busy.id = task.id) (at_stage : busy.stage = task.stage) (queue : busy.rawIncoming ⊆ task.rawIncoming)
    {read : Except IoError (Option Bytes)} (heard : server.hear shared place env busy read = some later) :
    later.Sound := by
  have going : task.stage.gone = false := (sound.holder found).2.2.going
  unfold BleServer.hear at heard
  cases stage : busy.stage with
  | serving link =>
    have at_link : task.stage = .serving link := at_stage ▸ stage
    rw [stage] at heard
    dsimp only at heard
    split at heard
    · cases heard
    · split at heard
      · cases heard
        exact sound.put found same queue (at_stage ▸ going) (at_stage ▸ id)
      · cases heard
        exact sound.serve found at_link same queue
      · cases heard
        exact sound.serve found at_link same queue
  | relaying =>
    rw [stage] at heard
    dsimp only at heard
    split at heard
    · cases heard
      exact sound.put found same queue (at_stage ▸ going) (at_stage ▸ id)
    · split at heard
      · cases heard
        exact sound.put found same queue (at_stage ▸ going) (at_stage ▸ id)
      · cases heard
        exact sound.put found same queue rfl fun _ => rfl
    · cases heard
      exact sound.put found same queue rfl fun _ => rfl
  | finishing =>
    rw [stage] at heard
    cases heard

theorem BleServer.Sound.step {event : HubEvent} (sound : server.Sound) (ran : server.step shared event = some later) :
    later.Sound := by
  cases event with
  | setKnownPeers peers =>
    cases ran
    exact sound.fewer fun _ receives => receives
  | subscribe =>
    rw [BleServer.step, LinkHub.begin] at ran
    cases free : server.hub.active with
    | some id =>
      rw [free] at ran
      cases ran
      exact sound
    | none =>
      rw [free] at ran
      cases ran
      exact sound.subscribe free
  | unsubscribe place =>
    obtain ⟨task, found, same⟩ := Option.bind_eq_some_iff.mp ran
    cases same
    exact sound.put found rfl (List.Subset.refl _) (sound.holder found).2.2.going id
  | write offset value =>
    rw [BleServer.step, LinkHub.write] at ran
    split at ran
    · cases ran
      exact sound
    · cases active : server.hub.active with
      | none =>
        rw [active] at ran
        cases ran
        exact sound
      | some id =>
        rw [active] at ran
        dsimp only at ran
        by_cases listens : server.listens id
        · rw [if_pos listens] at ran
          cases ran
          exact sound.write value active
        · rw [if_neg listens] at ran
          cases ran
          exact sound
  | serve place env =>
    obtain ⟨task, found, same⟩ := Option.bind_eq_some_iff.mp ran
    split at same
    · rename_i link stage
      split at same
      · cases same
      · cases same
        exact sound.serve found stage rfl (List.Subset.refl _)
    · cases same
  | chunk place env =>
    obtain ⟨task, found, same⟩ := Option.bind_eq_some_iff.mp ran
    cases queue : task.rawIncoming with
    | nil =>
      rw [queue] at same
      cases same
    | cons item rawIncoming =>
      rw [queue] at same
      have first : item ∈ task.rawIncoming := by
        rw [queue]
        exact List.mem_cons_self
      have rest : rawIncoming ⊆ task.rawIncoming := by
        rw [queue]
        exact List.subset_cons_self _ _
      refine (sound.feed found first).hear found ?_ ?_ rest same
      · rfl
      · rfl
  | timeout place env =>
    obtain ⟨task, found, same⟩ := Option.bind_eq_some_iff.mp ran
    split at same
    · exact sound.hear found rfl rfl (List.Subset.refl _) same
    · cases same
  | hangUp place env =>
    obtain ⟨task, found, same⟩ := Option.bind_eq_some_iff.mp ran
    split at same
    · cases same
    · split at same
      · cases same
        exact sound.put found rfl (List.Subset.refl _) rfl fun _ => rfl
      · exact sound.hear found rfl rfl (List.Subset.refl _) same
  | notify place delivered =>
    obtain ⟨task, found, same⟩ := Option.bind_eq_some_iff.mp ran
    split at same
    · rename_i stage _
      split at same
      · cases same
        exact sound.put found rfl (List.Subset.refl _) (sound.holder found).2.2.going id
      · cases same
        exact sound.put found rfl (List.Subset.refl _) rfl fun _ => rfl
    · cases same
  | release place =>
    obtain ⟨task, found, same⟩ := Option.bind_eq_some_iff.mp ran
    split at same
    · split at same
      · cases same
      · cases same
        exact sound.put found rfl (List.Subset.refl _) rfl fun _ => rfl
    · cases same
  | finish place =>
    obtain ⟨task, found, same⟩ := Option.bind_eq_some_iff.mp ran
    split at same
    · cases same
      exact sound.finish found
    · cases same
  | take now deviceId credentialId =>
    cases ran
    refine sound.fewer (receives_of_subset ?_ fun session member => receives_iff.mpr ?_)
    · exact ((Sessions.takeMatching_sublist deviceId credentialId _).trans List.filter_sublist).subset
    · rcases List.mem_append.mp member with earlier | last
      · exact Or.inr ⟨session, earlier, rfl⟩
      · obtain ⟨parked, taken, rfl⟩ := List.mem_map.mp last
        obtain ⟨key, held⟩ := Sessions.takeMatching_mem (Option.mem_toList.mp taken)
        exact Or.inl ⟨_, (Table.mem_retain.mp held).1, rfl⟩
  | send place frame =>
    obtain ⟨session, found, same⟩ := Option.bind_eq_some_iff.mp ran
    split at same
    · cases same
      exact sound
    · split at same
      · cases same
        exact sound.replace found rfl
      · cases same
        exact (sound.push session.link _).replace found rfl
  | close place =>
    obtain ⟨session, found, same⟩ := Option.bind_eq_some_iff.mp ran
    cases same
    exact sound.replace found rfl
  | drop place =>
    rw [BleServer.step] at ran
    split at ran
    · cases ran
      refine sound.fewer (receives_of_subset (List.Subset.refl _) fun session member => receives_iff.mpr (Or.inr ?_))
      exact ⟨session, List.mem_of_mem_eraseIdx member, rfl⟩
    · cases ran
  | sweep now =>
    cases ran
    refine sound.fewer (receives_of_subset List.filter_sublist.subset fun session member => ?_)
    exact receives_iff.mpr (Or.inr ⟨session, member, rfl⟩)

theorem BleServer.Sound.run {events : List HubEvent} (sound : server.Sound)
    (ran : BleServer.run shared events server = some later) : later.Sound := by
  induction events generalizing server with
  | nil =>
    cases ran
    exact sound
  | cons event events ih =>
    obtain ⟨between, first, rest⟩ := Option.bind_eq_some_iff.mp ran
    exact ih (sound.step first) rest

/-- The link's own task is what takes such a step, for which it may have to wait until its time is out. -/
def HubEvent.own : HubEvent → Bool
  | .serve _ _ | .timeout _ _ | .notify _ _ | .release _ | .finish _ => true
  | _ => false

namespace BleServer

theorem hear_hub {read : Except IoError (Option Bytes)}
    (heard : server.hear shared place env task read = some later) : later.hub = server.hub := by
  unfold hear at heard
  split at heard
  · split at heard
    · cases heard
    · split at heard <;> (cases heard; rfl)
  · split at heard
    · cases heard
      rfl
    · split at heard <;> (cases heard; rfl)
    · cases heard
      rfl
  · cases heard

/-- A link is let go of when its own task finishes. -/
theorem step_active {event : HubEvent} (ran : server.step shared event = some later) {id : Nat}
    (active : server.hub.active = some id) : later.hub.active = some id ∨ later.hub.active = none ∧
      ∃ place task, event = .finish place ∧ server.links[place]? = some task ∧ task.id = id := by
  suffices same : later.hub = server.hub ∨
      ∃ place task, event = .finish place ∧ server.links[place]? = some task ∧ later.hub = server.hub.finish task.id by
    rcases same with same | ⟨place, task, rfl, found, same⟩
    · rw [same]
      exact Or.inl active
    · rw [same, LinkHub.finish]
      split
      · rename_i own
        exact Or.inr ⟨rfl, place, task, rfl, found, Option.some.inj (own.symm.trans active)⟩
      · exact Or.inl active
  cases event with
  | subscribe =>
    rw [step, LinkHub.begin, active] at ran
    cases ran
    exact Or.inl rfl
  | write offset value =>
    rw [step] at ran
    split at ran
    · cases ran
      exact Or.inl rfl
    · split at ran <;> (cases ran; exact Or.inl rfl)
  | finish place =>
    obtain ⟨task, found, same⟩ := Option.bind_eq_some_iff.mp ran
    split at same
    · cases same
      exact Or.inr ⟨place, task, rfl, found, rfl⟩
    · cases same
  | setKnownPeers peers | take now deviceId credentialId | sweep now =>
    cases ran
    exact Or.inl rfl
  | drop place =>
    rw [step] at ran
    split at ran
    · cases ran
      exact Or.inl rfl
    · cases ran
  | unsubscribe place | close place =>
    obtain ⟨_, _, same⟩ := Option.bind_eq_some_iff.mp ran
    cases same
    exact Or.inl rfl
  | serve place env =>
    obtain ⟨_, _, same⟩ := Option.bind_eq_some_iff.mp ran
    split at same
    · split at same
      · cases same
      · cases same
        exact Or.inl rfl
    · cases same
  | chunk place env =>
    obtain ⟨task, _, same⟩ := Option.bind_eq_some_iff.mp ran
    split at same
    · cases same
    · rename_i number value rawIncoming _
      generalize BleFrameDecoder.addChunk value task.decoder = heard at same
      obtain ⟨read, decoder⟩ := heard
      have hub := hear_hub same
      exact Or.inl hub
  | timeout place env =>
    obtain ⟨_, _, same⟩ := Option.bind_eq_some_iff.mp ran
    split at same
    · exact Or.inl (hear_hub same)
    · cases same
  | hangUp place env =>
    obtain ⟨_, _, same⟩ := Option.bind_eq_some_iff.mp ran
    split at same
    · cases same
    · split at same
      · cases same
        exact Or.inl rfl
      · exact Or.inl (hear_hub same)
  | notify place delivered =>
    obtain ⟨_, _, same⟩ := Option.bind_eq_some_iff.mp ran
    split at same
    · split at same <;> (cases same; exact Or.inl rfl)
    · cases same
  | release place =>
    obtain ⟨_, _, same⟩ := Option.bind_eq_some_iff.mp ran
    split at same
    · split at same
      · cases same
      · cases same
        exact Or.inl rfl
    · cases same
  | send place frame =>
    obtain ⟨_, _, same⟩ := Option.bind_eq_some_iff.mp ran
    split at same
    · cases same
      exact Or.inl rfl
    · split at same <;> (cases same; exact Or.inl rfl)

/-- The steps of the link there is can lead there. -/
def Leads (shared : Shared) (server : BleServer) (goal : BleServer → Prop) : Prop :=
  ∃ events, (∀ event ∈ events, HubEvent.own event) ∧ ∃ later, run shared events server = some later ∧ goal later

def Free (server : BleServer) : Prop := server.hub.active = none

/-- The link waits for its session to be let go of, or to send something. -/
def Waits (server : BleServer) : Prop :=
  ∃ task ∈ server.links, task.relays ∧ task.outgoing = [] ∧ server.sends task.id

theorem Leads.now {goal : BleServer → Prop} (here : goal server) : Leads shared server goal :=
  ⟨[], nofun, server, rfl, here⟩

theorem Leads.step {goal : BleServer → Prop} {event : HubEvent} (own : event.own)
    (ran : server.step shared event = some later) (leads : Leads shared later goal) : Leads shared server goal := by
  obtain ⟨events, all, last, rest, reached⟩ := leads
  refine ⟨event :: events, List.forall_mem_cons.mpr ⟨own, all⟩, last, ?_, reached⟩
  exact Option.bind_eq_some_iff.mpr ⟨later, ran, rest⟩

theorem Leads.mono {goal other : BleServer → Prop} (leads : Leads shared server goal)
    (weaker : ∀ later, goal later → other later) : Leads shared server other := by
  obtain ⟨events, all, last, ran, reached⟩ := leads
  exact ⟨events, all, last, ran, weaker last reached⟩

section Progress

theorem leads_finishing (sound : server.Sound) (one : server.links = [task]) (stage : task.stage = .finishing) :
    Leads shared server Free := by
  have found : server.links[0]? = some task := by rw [one]; rfl
  have active := (sound.holder found).2.2.active
  have ran : server.step shared (.finish 0) =
      some { server with hub := server.hub.finish task.id, links := server.links.eraseIdx 0 } := by
    rw [step, one]
    simp [stage]
  exact Leads.step rfl ran (Leads.now (congrArg LinkHub.active (if_pos active)))

/-- A step of `serve_link` with the link there is. -/
theorem step_serve (one : server.links = [task]) {link : Link} (stage : task.stage = .serving link)
    (still : link.reads = false) : server.step shared (.serve 0 env) = some (server.serve shared 0 env task link) := by
  rw [step, one]
  simp [stage, still]

omit [Crypto] in
theorem put_links (one : server.links = [task]) (later : LinkTask) : (server.put 0 later).links = [later] := by
  rw [put, one]
  rfl

theorem serve_links (one : server.links = [task]) (link : Link) : (server.serve shared 0 env task link).links =
    [{ task with stage := .after (serveLink shared task.id (task.surroundings env) server.state link).2 }] := by
  change server.links.set 0 _ = _
  rw [one]
  rfl

theorem leads_failed (sound : server.Sound) (one : server.links = [task]) {error : ConnectionError}
    (stage : task.stage = .serving (.failed error)) (env : Surroundings) : Leads shared server Free := by
  have ran : server.step shared (.serve 0 env) = _ := step_serve one stage rfl
  exact Leads.step rfl ran (leads_finishing (sound.step ran) (serve_links one _) rfl)

/-- A link in its loop whose phone has let go ends once something is to be sent to the phone, or nothing more can be. -/
theorem leads_relaying (sound : server.Sound) (one : server.links = [task]) (gone : task.subscribed = false)
    (stage : task.stage = .relaying) (idle : ¬(task.outgoing = [] ∧ server.sends task.id)) (env : Surroundings) :
    Leads shared server Free := by
  cases outgoing : task.outgoing with
  | nil =>
    have silent : ¬server.sends task.id := fun sends => idle ⟨outgoing, sends⟩
    have ran : server.step shared (.release 0) = some (server.put 0 { task with stage := .finishing }) := by
      rw [step, one]
      simp [stage, outgoing, silent]
    exact Leads.step rfl ran (leads_finishing (sound.step ran) (put_links one _) rfl)
  | cons frame frames =>
    have refused : task.delivered (.ok ()) = .error ⟨.brokenPipe, "notification session stopped"⟩ := by
      simp [LinkTask.delivered, gone]
    have ran : server.step shared (.notify 0 (.ok ())) = some (server.put 0 { task with
        outgoing := frames, stage := .serving (.failed (.io ⟨.brokenPipe, "notification session stopped"⟩)) }) := by
      rw [step, one]
      simp [stage, outgoing, refused]
    exact Leads.step rfl ran (leads_failed (sound.step ran) (put_links one _) rfl env)

/-- What a link comes to on its own: the hub is free, or it waits for its session. -/
def Comes (server : BleServer) : Prop := server.Free ∨ server.Waits

theorem leads_loop (sound : server.Sound) (one : server.links = [task]) (gone : task.subscribed = false)
    (stage : task.stage = .relaying) (env : Surroundings) : Leads shared server Comes := by
  by_cases idle : task.outgoing = [] ∧ server.sends task.id
  · refine Leads.now (Or.inr ⟨task, ?_, ?_, idle⟩)
    · rw [one]
      exact List.mem_singleton_self task
    · simp [LinkTask.relays, stage]
  · exact (leads_relaying sound one gone stage idle env).mono fun _ => Or.inl

/-- A step of `serve_link` that waits for nothing goes on to what the next one comes to. -/
theorem leads_serve (sound : server.Sound) (one : server.links = [task]) (gone : task.subscribed = false) {link : Link}
    (stage : task.stage = .serving link) (still : link.reads = false) (env : Surroundings)
    (next : ∀ later busy, BleServer.Sound later → later.links = [busy] → busy.subscribed = false →
      busy.stage = .after (serveLink shared task.id (task.surroundings env) server.state link).2 →
        Leads shared later Comes) : Leads shared server Comes := by
  have ran : server.step shared (.serve 0 env) = _ := step_serve one stage still
  exact Leads.step rfl ran (next _ _ (sound.step ran) (serve_links one _) gone rfl)

/-- A step of `serve_link` that waits for a frame has one of its own for when none comes. -/
theorem leads_timeout (sound : server.Sound) (one : server.links = [task]) (gone : task.subscribed = false)
    {link : Link} (stage : task.stage = .serving link) (reads : link.reads) (env : Surroundings)
    (next : ∀ later busy env, BleServer.Sound later → later.links = [busy] → busy.subscribed = false →
      env.read = .error ⟨.timedOut, "BLE handshake timed out"⟩ →
      busy.stage = .after (serveLink shared task.id env server.state link).2 → Leads shared later Comes) :
    Leads shared server Comes := by
  have ran : server.step shared (.timeout 0 env) = some (server.serve shared 0
      { env with read := .error ⟨.timedOut, "BLE handshake timed out"⟩ } task link) := by
    rw [step, one]
    simp [stage, hear, reads]
  exact Leads.step rfl ran (next _ _ _ (sound.step ran) (serve_links one _) gone rfl rfl)

theorem leads_attached (sound : server.Sound) (one : server.links = [task]) (gone : task.subscribed = false)
    {outcome : Session.HandshakeOutcome} {credentialId : Option String}
    (stage : task.stage = .serving (.attached outcome credentialId)) (env : Surroundings) : Leads shared server Comes :=
  leads_serve sound one gone stage rfl env fun _ _ sound one gone stage => leads_loop sound one gone stage env

/-- A phone that says nothing is taken for one that is too old to. -/
theorem leads_attaching (sound : server.Sound) (one : server.links = [task]) (gone : task.subscribed = false)
    {outcome : Session.HandshakeOutcome} (stage : task.stage = .serving (.attaching outcome)) (env : Surroundings) :
    Leads shared server Comes := by
  refine leads_timeout sound one gone stage rfl env fun later busy env sound one gone silent stage => ?_
  have attached : (serveLink shared task.id env server.state (.attaching outcome)).2 = .attached outcome none := by
    simp [serveLink, Link.attach, silent, IoError.timeout, Link.settled]
  rw [attached] at stage
  exact leads_attached sound one gone stage env

theorem leads_answered (sound : server.Sound) (one : server.links = [task]) (gone : task.subscribed = false)
    {pending : Session.PendingServerHandshake} {clientFrame : Bytes} {claimed : String}
    (stage : task.stage = .serving (.answered pending clientFrame claimed)) (env : Surroundings) :
    Leads shared server Comes := by
  refine leads_serve sound one gone stage rfl env fun later busy sound one gone stage => ?_
  simp only [serveLink] at stage
  unfold Link.meet at stage
  split at stage
  · exact (leads_failed sound one stage env).mono fun _ => Or.inl
  · split at stage
    · exact leads_attaching sound one gone stage env
    · exact (leads_failed sound one stage env).mono fun _ => Or.inl

theorem leads_greeted (sound : server.Sound) (one : server.links = [task]) (gone : task.subscribed = false)
    {pending : Session.PendingServerHandshake} (stage : task.stage = .serving (.greeted pending)) (env : Surroundings) :
    Leads shared server Comes := by
  refine leads_timeout sound one gone stage rfl env fun later busy env sound one gone silent stage => ?_
  have failed : (serveLink shared task.id env server.state (.greeted pending)).2 =
      .failed (.io ⟨.timedOut, "BLE handshake timed out"⟩) := by
    simp only [serveLink, Link.hear, silent]
    rfl
  rw [failed] at stage
  exact (leads_failed sound one stage env).mono fun _ => Or.inl

/-- The greeting does not reach a phone that has let go of the subscription. -/
theorem leads_accepted (sound : server.Sound) (one : server.links = [task]) (gone : task.subscribed = false)
    (stage : task.stage = .serving .accepted) (env : Surroundings) : Leads shared server Comes := by
  refine leads_serve sound one gone stage rfl env fun later busy sound one _ stage => ?_
  cases greeting : Link.greet shared (task.surroundings env) with
  | error error =>
    simp only [serveLink, greeting] at stage
    exact (leads_failed sound one stage env).mono fun _ => Or.inl
  | ok link =>
    simp only [Link.greet, except_bind_eq_ok, LinkTask.surroundings, LinkTask.delivered, gone] at greeting
    obtain ⟨_, _, _, _, _, written, _⟩ := greeting
    cases written

/-- A link whose phone has let go of the subscription comes to an end by itself, unless it waits for its session. -/
theorem leads_gone (sound : server.Sound) (one : server.links = [task]) (gone : task.subscribed = false)
    (env : Surroundings) : Leads shared server Comes := by
  cases stage : task.stage with
  | finishing => exact (leads_finishing sound one stage).mono fun _ => Or.inl
  | relaying => exact leads_loop sound one gone stage env
  | serving link =>
    cases link with
    | failed error => exact (leads_failed sound one stage env).mono fun _ => Or.inl
    | ended result =>
      obtain ⟨_, _, holder⟩ := sound.holder (by rw [one]; rfl : server.links[0]? = some task)
      have going := holder.going
      rw [stage] at going
      cases going
    | attached outcome credentialId => exact leads_attached sound one gone stage env
    | attaching outcome => exact leads_attaching sound one gone stage env
    | answered pending clientFrame claimed => exact leads_answered sound one gone stage env
    | greeted pending => exact leads_greeted sound one gone stage env
    | accepted => exact leads_accepted sound one gone stage env

end Progress

omit [Crypto] in
/-- The link is the active one, and passes on what its session sends and is sent. -/
def Carries (server : BleServer) (id : Nat) : Prop :=
  server.hub.active = some id ∧ ∃ task ∈ server.links, task.id = id ∧ task.relays

omit [Crypto] in
/-- The link has been begun, and `serve_link` has returned from it. -/
def Ended (server : BleServer) (id : Nat) : Prop :=
  id < server.hub.nextId ∧ ∀ task ∈ server.links, task.id = id → task.stage.returned

/-- At most one link is there, and it is the active one, for which alone a subscription is refused. A decoder is fed
only what was written while its link was active, a link is let go of by its own task alone, and a session that is taken
has its link until that ends. Once the phone has let go of the subscription, the link comes to its end unless a session
is held that sends nothing, and it does too once that session is let go of or sends. -/
structure Orderly (shared : Shared) (server : BleServer) : Prop where
  one : server.links.length ≤ 1
  active : ∀ task ∈ server.links, server.hub.active = some task.id
  refused : server.hub.begin = none → ∃ task ∈ server.links, server.hub.active = some task.id
  fed : ∀ feed ∈ server.fed, ∃ value, server.written[feed.1]? = some (feed.2, value)
  freed : ∀ event later id, server.step shared event = some later → server.hub.active = some id →
    later.hub.active = some id ∨
      later.hub.active = none ∧ ∃ place task, event = .finish place ∧ server.links[place]? = some task ∧ task.id = id
  taken : ∀ session ∈ server.taken, server.Carries session.link ∨ server.Ended session.link
  gone : ∀ task ∈ server.links, task.subscribed = false → Nonempty Surroundings →
    Leads shared server Comes ∧ (task.relays → ¬server.Waits → Leads shared server Free)

omit [Crypto] in
theorem Sound.taken (sound : server.Sound) {session : BleSession} (member : session ∈ server.taken) :
    server.Carries session.link ∨ server.Ended session.link := by
  have receives : server.receives session.link := receives_iff.mpr (Or.inr ⟨session, member, rfl⟩)
  have known := sound.known _ receives
  rcases sound.links with ⟨none, _⟩ | ⟨task, one, holder⟩
  · refine Or.inr ⟨known, fun task member => ?_⟩
    rw [none] at member
    cases member
  · by_cases own : task.id = session.link
    · have past := holder.parked (own ▸ receives)
      by_cases returned : task.stage.returned
      · refine Or.inr ⟨known, fun other there _ => ?_⟩
        rw [one] at there
        rw [List.mem_singleton.mp there]
        exact returned
      · refine Or.inl ⟨own ▸ holder.active, task, ?_, own, ?_⟩
        · rw [one]
          exact List.mem_singleton_self task
        · cases stage : task.stage with
          | relaying => simp [LinkTask.relays, stage]
          | serving link | finishing =>
            rw [stage] at past returned
            exact absurd past returned
    · refine Or.inr ⟨known, fun other there same => ?_⟩
      rw [one] at there
      rw [List.mem_singleton.mp there] at same
      exact absurd same own

end BleServer

end Runs

section Vouched

def plainLink : @Surroundings Identities.plain := plainSurroundings 5 plainSilence

/-- A phone connects, its session is parked, and the phone goes. -/
def goneOnce : List (@HubEvent Identities.plain) :=
  let frame := [0, 0, 0, 0, 0, 1] ++ drawnFrame
  [@HubEvent.setKnownPeers Identities.plain (Table.empty.insert "phone" (plainKey 2).val),
    @HubEvent.subscribe Identities.plain, @HubEvent.serve Identities.plain 0 plainLink,
    @HubEvent.write Identities.plain 0 frame, @HubEvent.chunk Identities.plain 0 plainLink,
    @HubEvent.serve Identities.plain 0 plainLink, @HubEvent.timeout Identities.plain 0 plainLink,
    @HubEvent.serve Identities.plain 0 plainLink, @HubEvent.unsubscribe Identities.plain 0]

end Vouched

end BioAuth.Agent
