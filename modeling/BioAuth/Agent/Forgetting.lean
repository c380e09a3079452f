import BioAuth.Agent.Ble
import BioAuth.Agent.PairingCode
import BioAuth.Agent.PoolRuns
import BioAuth.Verifier.PairingRuns

namespace BioAuth.Agent
open BioAuth
open BioAuth.Session (HandshakeOutcome Identities ServerBootstrap plainBootstrap plainKey)
open BioAuth.Verifier (Devices Kept PairedDevice PairingStore)

/-- Which session identity belongs to which device. -/
def publishedPeers (store : PairingStore) : Peers :=
  store.values.foldl (fun peers device => peers.insert device.deviceId device.sessionIdentityPublicKey) Table.empty

theorem published_of_mem {devices : List PairedDevice} {peers : Peers} {entry : String × Bytes}
    (here : entry ∈ (devices.foldl (fun peers device => peers.insert device.deviceId device.sessionIdentityPublicKey)
      peers).entries) : entry ∈ peers.entries ∨ ∃ device ∈ devices, device.deviceId = entry.1 := by
  induction devices generalizing peers with
  | nil => exact Or.inl here
  | cons device devices ih =>
    rcases ih here with before | ⟨later, member, same⟩
    · rcases Table.mem_insert.mp before with rfl | ⟨kept, _⟩
      · exact Or.inr ⟨device, List.mem_cons_self, rfl⟩
      · exact Or.inl kept
    · exact Or.inr ⟨later, List.mem_cons_of_mem _ member, same⟩

/-- A device that is not in the store is not published. -/
theorem publishedPeers_eq_none {store : PairingStore} (keyed : store.Keyed) {deviceId : String}
    (unknown : store.device deviceId = none) : (publishedPeers store).get? deviceId = none := by
  refine Table.get?_eq_none.mpr fun entry here same => ?_
  rcases published_of_mem here with nothing | ⟨device, member, named⟩
  · cases nothing
  · obtain ⟨⟨id, _⟩, listed, rfl⟩ := List.mem_map.mp member
    have found : store.device id = some _ := Verifier.mem_toList.mp listed
    rw [← keyed id _ found, named, same] at found
    exact absurd (unknown.symm.trans found) nofun

/-- What a call on the service has left to do. Its lock is held until then. -/
inductive Task
  | idle
  | publishing (peers : Peers) (forgetting : Option String)
  | publishingLinks (peers : Peers) (forgetting : Option String)
  | discarding (deviceId : String)

/-- The agent with both its transports. An onlooker notes which devices are forgotten, which is until they are in the
store again, and which connections and links had looked one of them up by then. -/
structure System [Identities] (σ : Type) where
  kept : Kept σ
  task : Task
  qr : QrState
  connections : Nat → Serving
  ble : BleState
  links : Nat → Link
  forgotten : String → Bool
  overtaken : Nat → Bool
  linkOvertaken : Nat → Bool

inductive SystemAct [Identities]
  | forget (deviceId : String)
  | install (device : PairedDevice)
  /-- The next critical section of the call on the service. -/
  | proceed
  | armPairing (bootstrap : ServerBootstrap)
  | cancelPairing
  | takeProposal
  | serve (stream : TcpStream) (env : Surroundings)
  | sweep (moment : Moment)
  | takeSession (deviceId credentialId : String) (moment : Moment)
  | serveLink (number : Nat) (env : Surroundings)
  | sweepLinks (now : Nat)
  | takeLinkSession (deviceId credentialId : String) (now : Nat)

section Runs
variable [Crypto] [Identities] [JsonText] {σ : Type} (shared : Shared)

namespace System

/-- The service as it opens: the store is read, and published next. -/
def opened (kept : Kept σ) : System σ where
  kept := kept
  task := .publishing (publishedPeers kept.store) none
  qr := QrState.initial
  connections _ := .accepted
  ble := BleState.initial
  links _ := .accepted
  forgotten _ := false
  overtaken _ := false
  linkOvertaken _ := false

/-- Forgetting takes the device from the store first. A call that fails does nothing more. -/
def forget (deviceId : String) (system : System σ) : System σ :=
  match Verifier.remove deviceId system.kept with
  | (.ok _, kept) => { system with kept, task := .publishing (publishedPeers kept.store) (some deviceId) }
  | (.error _, kept) => { system with kept }

/-- A device that an insertion leaves in the store, written or not, is paired again. -/
def install (device : PairedDevice) (system : System σ) : System σ :=
  match Verifier.insert device system.kept with
  | (result, kept) =>
    { system with
      kept
      task := match result with
        | .ok _ => .publishing (publishedPeers kept.store) none
        | .error _ => .idle
      forgotten := fun deviceId => system.forgotten deviceId && (kept.store.device deviceId).isNone }

def proceed (system : System σ) : System σ :=
  match system.task with
  | .idle => system
  | .publishing peers forgetting =>
    { system with qr := system.qr.setKnownPeers peers, task := .publishingLinks peers forgetting }
  | .publishingLinks peers forgetting =>
    { system with
      ble := system.ble.setKnownPeers peers
      task := match forgetting with
        | some deviceId => .discarding deviceId
        | none => .idle }
  | .discarding deviceId =>
    { system with
      qr := { system.qr with sessions := system.qr.sessions.discardSessions deviceId }
      task := .idle
      forgotten := Function.update system.forgotten deviceId true
      overtaken := fun number => system.overtaken number || (system.connections number).peer = some deviceId
      linkOvertaken := fun number => system.linkOvertaken number || (system.links number).peer = some deviceId }

/-- Only one call at a time has the service. -/
def called (call : System σ → System σ) (system : System σ) : System σ :=
  match system.task with
  | .idle => call system
  | _ => system

def after (system : System σ) : SystemAct → System σ
  | .forget deviceId => system.called (forget deviceId)
  | .install device => system.called (install device)
  | .proceed => system.proceed
  | .armPairing bootstrap => { system with qr := system.qr.armPairing bootstrap }
  | .cancelPairing => { system with qr := system.qr.cancelPairing }
  | .takeProposal => { system with qr := system.qr.takeProposal.2 }
  | .serve stream env =>
    let stepped := serveConnection shared stream env system.qr (system.connections stream.number)
    { system with qr := stepped.1, connections := Function.update system.connections stream.number stepped.2 }
  | .sweep moment =>
    { system with qr := { system.qr with sessions := system.qr.sessions.discardStale shared.idleTimeout moment } }
  | .takeSession deviceId credentialId moment =>
    { system with qr := { system.qr with
        sessions := (system.qr.sessions.takeSession shared.idleTimeout moment deviceId credentialId).2 } }
  | .serveLink number env =>
    let stepped := serveLink shared number env system.ble (system.links number)
    { system with ble := stepped.1, links := Function.update system.links number stepped.2 }
  | .sweepLinks now =>
    { system with ble := { system.ble with sessions := BleState.discardStale now system.ble.sessions } }
  | .takeLinkSession deviceId credentialId now =>
    { system with ble := (system.ble.takeSession now deviceId credentialId).2 }

def afterAll (system : System σ) (acts : List SystemAct) : System σ := acts.foldl (after shared) system

end System

/-- No session of the device is parked. -/
def Sessions.Free (deviceId : String) (sessions : Sessions) : Prop := ∀ entry ∈ sessions.entries, entry.1.1 ≠ deviceId

namespace Sessions.Free
variable {deviceId : String} {sessions fewer : Sessions}

omit [Crypto] [Identities] [JsonText] in
theorem subset (free : sessions.Free deviceId) (subset : fewer.entries ⊆ sessions.entries) : fewer.Free deviceId :=
  fun entry member => free entry (subset member)

omit [Crypto] [Identities] [JsonText] in
theorem takeMatching (free : sessions.Free deviceId) (credentialId : String) :
    (sessions.takeMatching deviceId credentialId).1 = none := by
  have exact : sessions.get? (deviceId, some credentialId) = none :=
    Table.get?_eq_none.mpr fun entry member same => free entry member (by rw [same])
  have any : sessions.get? (deviceId, none) = none :=
    Table.get?_eq_none.mpr fun entry member same => free entry member (by rw [same])
  rw [Sessions.takeMatching, exact, any]

end Sessions.Free

namespace System
variable {shared} {system : System σ}

/-- The peers leave out what is forgotten, and the device that is being forgotten. -/
def LeavesOut (forgotten : String → Bool) (store : PairingStore) (peers : Peers) (forgetting : Option String) : Prop :=
  (∀ deviceId, forgotten deviceId = true → peers.get? deviceId = none) ∧
    ∀ deviceId, forgetting = some deviceId → peers.get? deviceId = none ∧ store.device deviceId = none

/-- A call on the service works with peers from which what is forgotten is missing. -/
def TaskSound (system : System σ) : Task → Prop
  | .idle => True
  | .publishing peers forgetting => LeavesOut system.forgotten system.kept.store peers forgetting
  | .publishingLinks peers forgetting => LeavesOut system.forgotten system.kept.store peers forgetting ∧
      ∀ deviceId, forgetting = some deviceId → system.qr.knownPeers.get? deviceId = none
  | .discarding deviceId => system.kept.store.device deviceId = none ∧
      system.qr.knownPeers.get? deviceId = none ∧ system.ble.knownPeers.get? deviceId = none

omit [Crypto] [JsonText] in
theorem TaskSound.with_peers {task : Task} (sound : system.TaskSound task) {changed : System σ}
    (forgotten : changed.forgotten = system.forgotten) (store : changed.kept = system.kept)
    (peers : changed.qr.knownPeers = system.qr.knownPeers) (blePeers : changed.ble.knownPeers = system.ble.knownPeers) :
    changed.TaskSound task := by
  cases task <;> simp only [TaskSound, forgotten, store, peers, blePeers] at sound ⊢ <;> exact sound

/-- A device that is forgotten is nowhere: not in the store, nor a known peer, nor in a pool. Only connections that had
looked it up before still have it. -/
structure Sound (system : System σ) : Prop where
  keyed : system.kept.store.Keyed
  task : system.TaskSound system.task
  stored : ∀ deviceId, system.forgotten deviceId = true → system.kept.store.device deviceId = none
  peers : ∀ deviceId, system.forgotten deviceId = true → system.qr.knownPeers.get? deviceId = none
  blePeers : ∀ deviceId, system.forgotten deviceId = true → system.ble.knownPeers.get? deviceId = none
  connections : ∀ number deviceId, (system.connections number).peer = some deviceId →
    system.overtaken number = false → system.forgotten deviceId = false
  links : ∀ number deviceId, (system.links number).peer = some deviceId →
    system.linkOvertaken number = false → system.forgotten deviceId = false
  pool : ∀ deviceId, system.forgotten deviceId = true → system.qr.sessions.Free deviceId
  blePool : ∀ deviceId, system.forgotten deviceId = true → system.ble.sessions.Free deviceId

/-- Where forgetting can go wrong: a connection that had looked a phone up before it was forgotten parks it after, or
the Bluetooth pool holds a session when its phone is forgotten. -/
def Raced (system : System σ) : SystemAct → Prop
  | .serve stream _ => ∃ outcome credentialId, system.connections stream.number = .attached outcome credentialId ∧
      system.overtaken stream.number = true ∧ system.forgotten outcome.peerDeviceId = true
  | .serveLink number _ => ∃ outcome credentialId, system.links number = .attached outcome credentialId ∧
      system.linkOvertaken number = true ∧ system.forgotten outcome.peerDeviceId = true
  | .proceed => ∃ deviceId, system.task = .discarding deviceId ∧ ¬system.ble.sessions.Free deviceId
  | _ => False

omit [Crypto] [JsonText] in
theorem opened_sound {kept : Kept σ} (keyed : kept.store.Keyed) : (opened kept : System σ).Sound where
  keyed := keyed
  task := ⟨fun _ forgotten => Bool.noConfusion forgotten, fun _ named => Option.noConfusion rfl (heq_of_eq named)⟩
  stored _ forgotten := Bool.noConfusion forgotten
  peers _ forgotten := Bool.noConfusion forgotten
  blePeers _ forgotten := Bool.noConfusion forgotten
  connections _ _ _ _ := rfl
  links _ _ _ _ := rfl
  pool _ forgotten := Bool.noConfusion forgotten
  blePool _ forgotten := Bool.noConfusion forgotten

omit [Crypto] [JsonText] in
/-- What only takes sessions out of the pools keeps all else in order. -/
theorem Sound.fewer (sound : system.Sound) {qr : QrState} {ble : BleState}
    (peers : qr.knownPeers = system.qr.knownPeers) (blePeers : ble.knownPeers = system.ble.knownPeers)
    (sessions : qr.sessions.entries.Sublist system.qr.sessions.entries)
    (links : ble.sessions.entries.Sublist system.ble.sessions.entries) : Sound { system with qr, ble } where
  keyed := sound.keyed
  task := sound.task.with_peers rfl rfl peers blePeers
  stored := sound.stored
  peers deviceId forgotten := peers ▸ sound.peers deviceId forgotten
  blePeers deviceId forgotten := blePeers ▸ sound.blePeers deviceId forgotten
  connections := sound.connections
  links := sound.links
  pool deviceId forgotten := (sound.pool deviceId forgotten).subset sessions.subset
  blePool deviceId forgotten := (sound.blePool deviceId forgotten).subset links.subset

omit [Crypto] in
theorem Sound.forget (sound : system.Sound) (deviceId : String) (idle : system.task = .idle) :
    (system.forget deviceId).Sound := by
  have ends := Verifier.remove_ends deviceId system.kept
  have gone : ∀ kept : Kept σ, kept.store = system.kept.store.without deviceId → kept.store.Keyed ∧
      kept.store.device deviceId = none ∧
        ∀ other, system.kept.store.device other = none → kept.store.device other = none := by
    intro kept store
    rw [store]
    refine ⟨fun id device found => ?_, by rw [PairingStore.without_device, if_pos rfl], fun other unknown => ?_⟩
    · rw [PairingStore.without_device] at found
      split at found
      · cases found
      · exact sound.keyed id device found
    · rw [PairingStore.without_device, unknown, ite_self]
  unfold System.forget
  rcases run : Verifier.remove deviceId system.kept with ⟨error | device, kept⟩
  · have kept_keyed : kept.store.Keyed ∧ ∀ other, system.kept.store.device other = none → kept.store.device other = none := by
      rcases ends.bad_of_run run with ⟨_, _, rfl⟩ | ⟨_, store, _⟩
      · exact ⟨sound.keyed, fun _ unknown => unknown⟩
      · exact ⟨(gone kept store).1, (gone kept store).2.2⟩
    exact { sound with
      keyed := kept_keyed.1
      task := by rw [idle]; trivial
      stored := fun other forgotten => kept_keyed.2 other (sound.stored other forgotten) }
  · obtain ⟨_, store, _⟩ := ends.good_of_run run
    obtain ⟨keyed, out, others⟩ := gone kept store
    have stored : ∀ other, system.forgotten other = true → kept.store.device other = none :=
      fun other forgotten => others other (sound.stored other forgotten)
    exact { sound with
      keyed := keyed
      stored := stored
      task := by
        refine ⟨fun other forgotten => publishedPeers_eq_none keyed (stored other forgotten), fun other named => ?_⟩
        cases named
        exact ⟨publishedPeers_eq_none keyed out, out⟩ }

omit [Crypto] in
theorem Sound.install (sound : system.Sound) (device : PairedDevice) :
    (system.install device).Sound := by
  have kept_keyed := Verifier.insert_keyed device sound.keyed
  unfold System.install
  rcases run : Verifier.insert device system.kept with ⟨result, kept⟩
  rw [run] at kept_keyed
  have still : ∀ deviceId, (system.forgotten deviceId && (kept.store.device deviceId).isNone) = true →
      system.forgotten deviceId = true ∧ kept.store.device deviceId = none := by
    intro deviceId both
    rw [Bool.and_eq_true, Option.isNone_iff_eq_none] at both
    exact both
  have fewer : ∀ deviceId, system.forgotten deviceId = false →
      (system.forgotten deviceId && (kept.store.device deviceId).isNone) = false := by
    intro deviceId known
    rw [known, Bool.false_and]
  exact {
    keyed := kept_keyed
    task := by
      cases result with
      | ok _ => exact ⟨fun deviceId forgotten => publishedPeers_eq_none kept_keyed (still deviceId forgotten).2, nofun⟩
      | error _ => trivial
    stored := fun deviceId forgotten => (still deviceId forgotten).2
    peers := fun deviceId forgotten => sound.peers deviceId (still deviceId forgotten).1
    blePeers := fun deviceId forgotten => sound.blePeers deviceId (still deviceId forgotten).1
    connections := fun number deviceId here quick => fewer deviceId (sound.connections number deviceId here quick)
    links := fun number deviceId here quick => fewer deviceId (sound.links number deviceId here quick)
    pool := fun deviceId forgotten => sound.pool deviceId (still deviceId forgotten).1
    blePool := fun deviceId forgotten => sound.blePool deviceId (still deviceId forgotten).1 }

omit [Crypto] [JsonText] in
theorem Sound.proceed (sound : system.Sound) (calm : ¬system.Raced .proceed) : system.proceed.Sound := by
  have task := sound.task
  unfold System.proceed
  rcases stage : system.task with _ | ⟨peers, forgetting⟩ | ⟨peers, forgetting⟩ | deviceId <;> rw [stage] at task
  · exact sound
  · exact { sound with
      task := ⟨task, fun deviceId named => (task.2 deviceId named).1⟩
      peers := task.1 }
  · exact { sound with
      task := by
        cases forgetting with
        | none => trivial
        | some deviceId => exact ⟨(task.1.2 deviceId rfl).2, task.2 deviceId rfl, (task.1.2 deviceId rfl).1⟩
      blePeers := task.1.1 }
  · obtain ⟨out, peers, blePeers⟩ := task
    have free : system.ble.sessions.Free deviceId := by
      by_contra held
      exact calm ⟨deviceId, stage, held⟩
    have either : ∀ {P : String → Prop}, P deviceId → (∀ other, system.forgotten other = true → P other) →
        ∀ other, Function.update system.forgotten deviceId true other = true → P other := by
      intro P own others other forgotten
      by_cases here : other = deviceId
      · rw [here]
        exact own
      · rw [Function.update_of_ne here] at forgotten
        exact others other forgotten
    have spared : ∀ {other : String} {before : Bool} {peer : Option String}, peer = some other →
        (before || decide (peer = some deviceId)) = false → (before = false → system.forgotten other = false) →
          Function.update system.forgotten deviceId true other = false := by
      intro other before peer named quick known
      rw [Bool.or_eq_false_iff, decide_eq_false_iff_not, named, Option.some.injEq] at quick
      rw [Function.update_of_ne quick.2]
      exact known quick.1
    exact {
      keyed := sound.keyed
      task := trivial
      stored := either out sound.stored
      peers := either peers sound.peers
      blePeers := either blePeers sound.blePeers
      connections := fun number other named quick => spared named quick (sound.connections number other named)
      links := fun number other named quick => spared named quick (sound.links number other named)
      pool := either (fun entry member => of_decide_eq_true (Table.mem_retain.mp member).2) fun other forgotten =>
        (sound.pool other forgotten).subset (List.filter_sublist.subset)
      blePool := either free sound.blePool }

theorem Sound.serve (sound : system.Sound) {stream : TcpStream} {env : Surroundings}
    (calm : ¬system.Raced (.serve stream env)) : (system.after shared (.serve stream env)).Sound := by
  have goes := Serving.goes shared stream env system.qr (system.connections stream.number)
  have known := Serving.knownPeers_after shared stream env system.qr (system.connections stream.number)
  exact {
    keyed := sound.keyed
    task := sound.task.with_peers rfl rfl known rfl
    stored := sound.stored
    peers := fun deviceId forgotten => known ▸ sound.peers deviceId forgotten
    blePeers := sound.blePeers
    connections := by
      intro number deviceId here quick
      simp only [after] at here
      by_cases own : number = stream.number
      · subst own
        rw [Function.update_self] at here
        rcases goes.peer here with before | looked
        · exact sound.connections stream.number deviceId before quick
        · rw [← Bool.not_eq_true]
          intro forgotten
          rw [sound.peers deviceId forgotten] at looked
          cases looked
      · rw [Function.update_of_ne own] at here
        exact sound.connections number deviceId here quick
    links := sound.links
    pool := by
      intro deviceId forgotten entry member same
      rcases Serving.sessions_after shared stream env system.qr (system.connections stream.number) member with
        before | ⟨outcome, credentialId, stage, named⟩
      · exact sound.pool deviceId forgotten entry before same
      · have here : outcome.peerDeviceId = deviceId := named.symm.trans same
        rcases overtaken : system.overtaken stream.number
        · have peer : (system.connections stream.number).peer = some deviceId := by rw [stage, ← here]; rfl
          exact Bool.noConfusion ((sound.connections stream.number deviceId peer overtaken).symm.trans forgotten)
        · exact calm ⟨outcome, credentialId, stage, overtaken, here ▸ forgotten⟩
    blePool := sound.blePool }

theorem Sound.serveLink (sound : system.Sound) {number : Nat} {env : Surroundings}
    (calm : ¬system.Raced (.serveLink number env)) : (system.after shared (.serveLink number env)).Sound := by
  have known : (Agent.serveLink shared number env system.ble (system.links number)).1.knownPeers = system.ble.knownPeers :=
    Link.knownPeers_after (system.links number)
  exact {
    keyed := sound.keyed
    task := sound.task.with_peers rfl rfl rfl known
    stored := sound.stored
    peers := sound.peers
    blePeers := fun deviceId forgotten => known ▸ sound.blePeers deviceId forgotten
    connections := sound.connections
    links := by
      intro other deviceId here quick
      simp only [after] at here
      by_cases own : other = number
      · subst own
        rw [Function.update_self] at here
        rcases Link.peer_after here with before | looked
        · exact sound.links other deviceId before quick
        · rw [← Bool.not_eq_true]
          intro forgotten
          rw [sound.blePeers deviceId forgotten] at looked
          cases looked
      · rw [Function.update_of_ne own] at here
        exact sound.links other deviceId here quick
    pool := sound.pool
    blePool := by
      intro deviceId forgotten entry member same
      rcases Link.sessions_after member with before | ⟨outcome, credentialId, stage, named⟩
      · exact sound.blePool deviceId forgotten entry before same
      · have here : outcome.peerDeviceId = deviceId := named.symm.trans same
        rcases overtaken : system.linkOvertaken number
        · have peer : (system.links number).peer = some deviceId := by rw [stage, ← here]; rfl
          exact Bool.noConfusion ((sound.links number deviceId peer overtaken).symm.trans forgotten)
        · exact calm ⟨outcome, credentialId, stage, overtaken, here ▸ forgotten⟩ }

omit [Crypto] [JsonText] in
theorem Sound.called (sound : system.Sound) {call : System σ → System σ} (called : system.task = .idle → (call system).Sound) :
    (system.called call).Sound := by
  unfold System.called
  split
  · rename_i idle
    exact called idle
  · exact sound

theorem Sound.step (sound : system.Sound) {act : SystemAct} (calm : ¬system.Raced act) :
    (system.after shared act).Sound := by
  cases act with
  | forget deviceId => exact sound.called (sound.forget deviceId)
  | install device => exact sound.called fun _ => sound.install device
  | proceed => exact sound.proceed calm
  | serve stream env => exact sound.serve calm
  | serveLink number env => exact sound.serveLink calm
  | armPairing bootstrap => exact sound.fewer rfl rfl (List.Sublist.refl _) (List.Sublist.refl _)
  | cancelPairing => exact sound.fewer rfl rfl (List.Sublist.refl _) (List.Sublist.refl _)
  | takeProposal => exact sound.fewer rfl rfl (List.Sublist.refl _) (List.Sublist.refl _)
  | sweep moment => exact sound.fewer rfl rfl List.filter_sublist (List.Sublist.refl _)
  | takeSession deviceId credentialId moment =>
    exact sound.fewer rfl rfl (Sessions.taken shared.idleTimeout moment deviceId credentialId _).sublist
      (List.Sublist.refl _)
  | sweepLinks now => exact sound.fewer rfl rfl (List.Sublist.refl _) List.filter_sublist
  | takeLinkSession deviceId credentialId now =>
    exact sound.fewer rfl rfl (List.Sublist.refl _)
      ((Sessions.takeMatching_sublist deviceId credentialId _).trans List.filter_sublist)

variable (shared)

/-- The agent as the numbered act of a run finds it, from a store it loaded. -/
def foundAt (kept : Kept σ) (acts : List SystemAct) (number : Nat) : System σ :=
  (opened kept).afterAll shared (acts.take number)

/-- One round of connecting to a phone, over each transport in turn. -/
def connect (deviceId credentialId : String) (moment : Moment) (system : System σ) : Option ParkedSession :=
  match (system.qr.sessions.takeSession shared.idleTimeout moment deviceId credentialId).1 with
  | some session => some session
  | none => (system.ble.takeSession moment.now deviceId credentialId).1

/-- Forgetting a phone is final: as long as it is forgotten it is in no pool, and connecting brings nothing. -/
def ForgetsForGood (kept : Kept σ) (acts : List SystemAct) : Prop :=
  ∀ number deviceId, (foundAt shared kept acts number).forgotten deviceId = true →
    (foundAt shared kept acts number).qr.sessions.Free deviceId ∧
      (foundAt shared kept acts number).ble.sessions.Free deviceId ∧
        ∀ credentialId moment, (foundAt shared kept acts number).connect shared deviceId credentialId moment = none

/-- No act of the run is one where forgetting goes wrong. -/
def Unraced (kept : Kept σ) (acts : List SystemAct) : Prop :=
  ∀ number act, acts[number]? = some act → ¬(foundAt shared kept acts number).Raced act

variable {shared}

theorem foundAt_succ {kept : Kept σ} {acts : List SystemAct} {number : Nat} {act : SystemAct}
    (here : acts[number]? = some act) :
    foundAt shared kept acts (number + 1) = (foundAt shared kept acts number).after shared act := by
  rw [foundAt, List.take_add_one, here, Option.toList_some, afterAll, List.foldl_append]
  rfl

theorem Sound.run {kept : Kept σ} {acts : List SystemAct} (keyed : kept.store.Keyed)
    (calm : Unraced shared kept acts) (number : Nat) : (foundAt shared kept acts number).Sound := by
  induction number with
  | zero => exact opened_sound keyed
  | succ number ih =>
    rcases here : acts[number]? with _ | act
    · have unmoved : foundAt shared kept acts (number + 1) = foundAt shared kept acts number := by
        rw [foundAt, foundAt, List.take_add_one, here, Option.toList_none, List.append_nil]
      rw [unmoved]
      exact ih
    · rw [foundAt_succ here]
      exact ih.step (calm number act here)

omit [Crypto] [JsonText] in
/-- A phone in no pool cannot be connected to. -/
theorem connect_free {deviceId : String} (free : system.qr.sessions.Free deviceId)
    (linksFree : system.ble.sessions.Free deviceId) (credentialId : String) (moment : Moment) :
    system.connect shared deviceId credentialId moment = none := by
  have live : (system.qr.sessions.discardStale shared.idleTimeout moment).Free deviceId :=
    free.subset (List.filter_sublist.subset)
  have young : (BleState.discardStale moment.now system.ble.sessions).Free deviceId :=
    linksFree.subset (List.filter_sublist.subset)
  rw [connect, Sessions.takeSession, live.takeMatching]
  exact young.takeMatching credentialId

/-- A forgotten phone with a session in a pool breaks the promise. -/
theorem not_forgetsForGood {kept : Kept σ} {acts : List SystemAct} (number : Nat) (deviceId : String)
    (forgotten : (foundAt shared kept acts number).forgotten deviceId = true)
    (held : ((foundAt shared kept acts number).qr.sessions.entries ++
      (foundAt shared kept acts number).ble.sessions.entries).any (·.1.1 = deviceId) = true) :
    ¬ForgetsForGood shared kept acts := by
  intro final
  obtain ⟨free, linksFree, _⟩ := final number deviceId forgotten
  obtain ⟨entry, member, same⟩ := List.any_eq_true.mp held
  rcases List.mem_append.mp member with parked | linked
  · exact free entry parked (of_decide_eq_true same)
  · exact linksFree entry linked (of_decide_eq_true same)

omit [Crypto] [JsonText] in
/-- An act that comes before any forgetting, or finds the Bluetooth pool empty, is none where it goes wrong. -/
def quiet (system : System σ) : SystemAct → Bool
  | .serve stream _ => !system.overtaken stream.number
  | .serveLink number _ => !system.linkOvertaken number
  | .proceed => system.ble.sessions.entries.isEmpty
  | _ => true

omit [Crypto] [JsonText] in
theorem not_raced {act : SystemAct} (quiet : system.quiet act = true) : ¬system.Raced act := by
  intro raced
  cases act with
  | serve stream env =>
    obtain ⟨_, _, _, overtaken, _⟩ := raced
    simp only [System.quiet, overtaken, Bool.not_true, Bool.false_eq_true] at quiet
  | serveLink number env =>
    obtain ⟨_, _, _, overtaken, _⟩ := raced
    simp only [System.quiet, overtaken, Bool.not_true, Bool.false_eq_true] at quiet
  | proceed =>
    obtain ⟨deviceId, _, held⟩ := raced
    exact held fun entry member => absurd member (by rw [List.isEmpty_iff.mp quiet]; exact List.not_mem_nil)
  | forget | install | armPairing | cancelPairing | takeProposal | sweep | takeSession | sweepLinks | takeLinkSession =>
    exact raced

def quietThrough (shared : Shared) (system : System σ) : List SystemAct → Bool
  | [] => true
  | act :: acts => system.quiet act && quietThrough shared (system.after shared act) acts

theorem unraced_of_quiet {kept : Kept σ} {acts : List SystemAct} (quiet : quietThrough shared (opened kept) acts = true) :
    Unraced shared kept acts := by
  have through : ∀ (acts : List SystemAct) (system : System σ), quietThrough shared system acts = true →
      ∀ number act, acts[number]? = some act → ¬(system.afterAll shared (acts.take number)).Raced act := by
    intro acts
    induction acts with
    | nil => exact fun _ _ _ _ here => nomatch here
    | cons first acts ih =>
      intro system quiet number act here
      rw [quietThrough, Bool.and_eq_true] at quiet
      cases number with
      | zero =>
        cases here
        exact not_raced quiet.1
      | succ number => exact ih _ quiet.2 number act here
  exact through acts _ quiet

end System

end Runs

section Vouched

/-- A desktop with nothing paired. -/
def plainDesk : Kept Unit := ⟨⟨none, ∅⟩, Locker.World.holding []⟩

def plainPhone : PairedDevice where
  deviceId := "phone"
  displayName := "Phone"
  pairedAtMs := 0
  sessionIdentityPublicKey := (plainKey 2).val
  credentials := []

/-- The code the desktop draws for a connection that may not pair. -/
def drawnBootstrap : ServerBootstrap :=
  { plainBootstrap with sessionId := "t", nonce := plainKey 8, expiresAtMs := 120005 }

def drawnHello : Session.ServerHello := Session.PendingServerHandshake.hello drawnBootstrap (plainKey 1).val (plainKey 3)

def drawnAnswer : Session.ClientHello :=
  Session.ClientHandshake.answer drawnHello "phone" (plainKey 2).val (plainKey 4) false

/-- What the phone answers that code with. -/
def drawnFrame : Bytes :=
  Session.envelope drawnAnswer.spell (@Session.Identities.sign Identities.plain (plainKey 2) drawnAnswer.spell)

def plainSilence : Except Session.IoError Bytes := .error ⟨.timedOut, "timed out"⟩

def servedOnce (read : Except Session.IoError Bytes) : @SystemAct Identities.plain :=
  @SystemAct.serve Identities.plain ⟨0, none⟩ (plainSurroundings 5 read)

def linkedOnce (read : Except Session.IoError Bytes) : @SystemAct Identities.plain :=
  @SystemAct.serveLink Identities.plain 0 (plainSurroundings 5 read)

/-- A phone is paired, and published to both transports. -/
def pairedOnce : List (@SystemAct Identities.plain) :=
  [@SystemAct.proceed Identities.plain, @SystemAct.proceed Identities.plain, @SystemAct.install Identities.plain plainPhone,
    @SystemAct.proceed Identities.plain, @SystemAct.proceed Identities.plain]

def forgottenOnce : List (@SystemAct Identities.plain) :=
  [@SystemAct.forget Identities.plain "phone", @SystemAct.proceed Identities.plain, @SystemAct.proceed Identities.plain,
    @SystemAct.proceed Identities.plain]

/-- A phone that is parked over Bluetooth is forgotten. -/
def linkOutlives : List (@SystemAct Identities.plain) :=
  pairedOnce ++ [linkedOnce (.ok []), linkedOnce (.ok drawnFrame), linkedOnce (.ok []), linkedOnce plainSilence,
    linkedOnce (.ok [])] ++ forgottenOnce

/-- A phone is forgotten between its handshake and its parking. -/
def connectionOutlives : List (@SystemAct Identities.plain) :=
  pairedOnce ++ [servedOnce (.ok []), servedOnce (.ok drawnFrame), servedOnce (.ok [])] ++ forgottenOnce ++
    [servedOnce plainSilence, servedOnce (.ok [])]

/-- A phone that is parked is forgotten. -/
def parkedAndForgotten : List (@SystemAct Identities.plain) :=
  pairedOnce ++ [servedOnce (.ok []), servedOnce (.ok drawnFrame), servedOnce (.ok []), servedOnce plainSilence,
    servedOnce (.ok [])] ++ forgottenOnce

end Vouched

end BioAuth.Agent
