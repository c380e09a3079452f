import BioAuth.Verifier.PairingRuns

namespace BioAuth.Verifier
open BioAuth
open BioAuth.Locker (Path IoError Disk World)

/-- A call that writes the store. -/
inductive StoreWrite
  | insert (device : PairedDevice)
  | remove (deviceId : String)

section Writes
variable {σ : Type} [JsonText]

def StoreWrite.run : StoreWrite → PairingM σ Unit
  | .insert device => Verifier.insert device
  | .remove deviceId => do let _ ← Verifier.remove deviceId

/-- What is in memory is what any platform that refuses nothing would load. -/
def Kept.InStep (s : Kept σ) : Prop :=
  ∀ path, s.store.path = some path → ∀ world : World σ, world.files path = s.world.files path →
    world.disk.Faultless → world.disk.Honest → (load (some path) world).1 = .ok s.store

/-- A failed write has left memory as it was, and in step with the file. -/
def Undone (s t : Kept σ) : Prop := t.store = s.store ∧ t.InStep

/-- The write changes nothing: it inserts a device as it is known, up to credentials it does not name. -/
def StoreWrite.Idle (store : PairingStore) : StoreWrite → Prop
  | .insert device => ∃ kept : List PairedCredential,
    store.device device.deviceId = some { device with credentials := device.credentials ++ kept } ∧
      ∀ credential ∈ kept, credential.credentialId ∉ device.credentialIds
  | .remove _ => False

omit [JsonText] in
theorem store_ext {store other : PairingStore} (place : store.path = other.path)
    (devices : ∀ id, store.device id = other.device id) : store = other := by
  obtain ⟨path, held⟩ := store
  obtain ⟨_, others⟩ := other
  cases place
  have same : held = others := Std.ExtTreeMap.ext_getElem? devices
  rw [same]

omit [JsonText] in
/-- Merging changes nothing exactly when the device is known as it is, up to credentials it does not name. -/
theorem put_merged_eq_self {store : PairingStore} {device : PairedDevice} :
    store.put (store.merged device) = store ↔ (StoreWrite.insert device).Idle store := by
  have stored : store.put (store.merged device) = store ↔
      store.device device.deviceId = some (store.merged device) := by
    constructor
    · intro same
      have there : (store.put (store.merged device)).device device.deviceId = store.device device.deviceId := by rw [same]
      rw [PairingStore.put_device, PairingStore.merged_deviceId, if_pos rfl] at there
      exact there.symm
    · intro found
      refine store_ext rfl fun id => ?_
      rw [PairingStore.put_device, PairingStore.merged_deviceId]
      by_cases here : device.deviceId = id
      · rw [if_pos here, ← here, found]
      · rw [if_neg here]
  rw [stored]
  simp only [PairingStore.merged, StoreWrite.Idle]
  rcases store.device device.deviceId with _ | known
  · exact iff_of_false (fun absent => nomatch absent) fun ⟨_, absent, _⟩ => nomatch absent
  · dsimp only
    constructor
    · intro found
      refine ⟨_, found, fun credential member => ?_⟩
      simp only [List.mem_filter, decide_eq_true_eq] at member
      exact member.2
    · intro ⟨kept, found, apart⟩
      rw [Option.some.injEq] at found
      have mine : device.credentials.filter (fun held => held.credentialId ∉ device.credentialIds) = [] := by
        rw [List.filter_eq_nil_iff]
        intro credential member
        have named : credential.credentialId ∈ device.credentialIds := List.mem_map_of_mem member
        simp only [named, not_true, decide_false, Bool.false_eq_true, not_false_iff]
      have others : kept.filter (fun held => held.credentialId ∉ device.credentialIds) = kept := by
        rw [List.filter_eq_self]
        intro credential member
        exact decide_eq_true (apart credential member)
      unfold PairedDevice.credentialIds at mine others
      rw [found, List.filter_append, mine, others, List.nil_append]

/-- A write that fails on the disk leaves the file as it was, and what it did in memory stays done. -/
theorem failed_write {write : StoreWrite} {s : Kept σ} {error : IoError}
    (failed : (write.run s).1 = .error (.io error)) :
    (∃ path, s.store.path = some path ∧ (write.run s).2.world.files path = s.world.files path) ∧
      ((write.run s).2.store = s.store ↔ write.Idle s.store) := by
  cases write with
  | insert device =>
    rcases run : insert device s with ⟨other | _, t⟩ <;> rw [StoreWrite.run, run] at failed ⊢
    · cases failed
      rcases (insert_ends device s).bad_of_run run with ⟨refused, _⟩ | ⟨_, _, store, _, file⟩
      · obtain ⟨id, conflict⟩ := PairingStore.checkConflicts_eq_error refused
        cases conflict
      · exact ⟨file, by rw [store]; exact put_merged_eq_self⟩
    · cases failed
  | remove id =>
    rw [StoreWrite.run, Fallible.bind_run] at failed ⊢
    rcases run : remove id s with ⟨other | _, t⟩ <;> rw [run] at failed
    · cases failed
      rcases (remove_ends id s).bad_of_run run with ⟨_, unknown, _⟩ | ⟨known, store, _, file⟩
      · cases unknown
      · refine ⟨file, iff_of_false (fun same => known ?_) fun never => never⟩
        have gone : t.store.device id = none := by rw [store, PairingStore.without_device, if_pos rfl]
        rw [← same]
        exact gone
    · cases failed

/-- A write that fails on the disk leaves memory as it was, and in step with the file, exactly when they were in step
and it had nothing to change. -/
theorem failed_write_undone_iff (write : StoreWrite) (s : Kept σ) (error : IoError)
    (failed : (write.run s).1 = .error (.io error)) :
    Undone s (write.run s).2 ↔ s.InStep ∧ write.Idle s.store := by
  obtain ⟨⟨path, named, kept⟩, same⟩ := failed_write failed
  have through (store : (write.run s).2.store = s.store) : (write.run s).2.InStep ↔ s.InStep := by
    unfold Kept.InStep
    rw [store]
    refine forall₂_congr fun other here => ?_
    rw [named, Option.some.injEq] at here
    rw [← here, kept]
  constructor
  · intro ⟨store, step⟩
    exact ⟨(through store).mp step, same.mp store⟩
  · intro ⟨step, idle⟩
    exact ⟨same.mpr idle, (through (same.mpr idle)).mpr step⟩

end Writes

section Plain

/-- A new store, on a disk that is full by the time a file is renamed. -/
def crowded : Kept Unit where
  store := ⟨some ⟨[], utf8 "devices.json"⟩, ∅⟩
  world :=
    { Locker.World.holding [] with
      disk := { Disk.plain with verdict := fun _ kind _ => if kind = .rename then some .storageFull else none } }

theorem crowded_refuses :
    letI := plainJson
    ((StoreWrite.insert plainDevice).run crowded).1 = .error (.io .storageFull) := by
  decide +kernel

theorem failed_write_undone_iff_crowded :
    letI := plainJson
    Undone crowded ((StoreWrite.insert plainDevice).run crowded).2 ↔
      crowded.InStep ∧ (StoreWrite.insert plainDevice).Idle crowded.store :=
  letI := plainJson
  failed_write_undone_iff _ _ .storageFull crowded_refuses

/-- A phone whose pairing was reported as failed is trusted until the next start. -/
theorem failed_pairing_stands :
    letI := plainJson
    crowded.InStep ∧ ((StoreWrite.insert plainDevice).run crowded).1 = .error (.io .storageFull) ∧
      ((StoreWrite.insert plainDevice).run crowded).2.store.findCredential "login" ≠ none ∧
        ¬Undone crowded ((StoreWrite.insert plainDevice).run crowded).2 := by
  let := plainJson
  have trusted : ((StoreWrite.insert plainDevice).run crowded).2.store.findCredential "login" ≠ none := by
    decide +kernel
  refine ⟨?_, crowded_refuses, trusted, fun undone => trusted ?_⟩
  · intro path named world found faultless _
    have vacant : world.files path = none := found.trans rfl
    have missed := load_vacant vacant
    rcases run : load (some path) world with ⟨error | store, t⟩
    · exact absurd faultless (missed.bad_of_run run).2
    · have brought := (missed.good_of_run run).2
      rw [brought, ← named]
      rfl
  · rw [undone.1]
    decide +kernel

end Plain

end BioAuth.Verifier
