import BioAuth.Verifier.PairingFile

namespace BioAuth.Verifier
open BioAuth
open BioAuth.Locker (Path World)

def PairedDevice.credentialIds (device : PairedDevice) : List String :=
  device.credentials.map PairedCredential.credentialId

theorem PairedDevice.credential_eq_some {device : PairedDevice} (own : device.credentialIds.Nodup) {id : String}
    {credential : PairedCredential} :
    device.credential id = some credential ↔ credential ∈ device.credentials ∧ credential.credentialId = id := by
  constructor
  · intro found
    exact ⟨List.mem_of_find?_eq_some found, by simpa using List.find?_some found⟩
  · intro ⟨member, named⟩
    rcases found : device.credential id with _ | other
    · have missed := List.find?_eq_none.mp found credential member
      simp [named] at missed
    · have there := List.mem_of_find?_eq_some found
      have same : other.credentialId = id := by simpa using List.find?_some found
      rw [List.inj_on_of_nodup_map own there member (same.trans named.symm)]

namespace PairingStore

def deviceIds (store : PairingStore) : List String := store.values.map PairedDevice.deviceId

def credentialIds (store : PairingStore) : List String := store.values.flatMap PairedDevice.credentialIds

/-- Each device is kept under its own id, and no credential id is there twice. -/
structure Sound (store : PairingStore) : Prop where
  keyed : store.Keyed
  sole : store.credentialIds.Nodup

theorem mem_values {store : PairingStore} {device : PairedDevice} :
    device ∈ store.values ↔ ∃ id, store.device id = some device := by
  simp only [values, List.mem_map, Prod.exists, mem_toList, exists_eq_right]
  rfl

/-- What it takes for credential ids to be unique, device by device. -/
theorem credentialIds_nodup {store : PairingStore} :
    store.credentialIds.Nodup ↔
      (∀ id device, store.device id = some device → device.credentialIds.Nodup) ∧
        ∀ id other device another, id ≠ other → store.device id = some device → store.device other = some another →
          List.Disjoint device.credentialIds another.credentialIds := by
  unfold credentialIds
  rw [List.nodup_flatMap, values, List.pairwise_map]
  constructor
  · rintro ⟨own, apart⟩
    refine ⟨fun id device found => own device (mem_values.mpr ⟨id, found⟩), ?_⟩
    intro id other device another different found seen
    have symmetric : Std.Symm fun a b : String × PairedDevice =>
        Function.onFun List.Disjoint PairedDevice.credentialIds a.2 b.2 := ⟨fun _ _ => List.Disjoint.symm⟩
    have distinct : (id, device) ≠ (other, another) := fun same => different (congrArg Prod.fst same)
    exact apart.forall (mem_toList.mpr found) (mem_toList.mpr seen) distinct
  · rintro ⟨own, apart⟩
    refine ⟨?_, ?_⟩
    · intro device member
      obtain ⟨id, found⟩ := mem_values.mp member
      exact own id device found
    · refine Std.ExtTreeMap.distinct_keys_toList.imp_of_mem ?_
      intro a b first second different
      refine apart a.1 b.1 a.2 b.2 (fun same => different ?_) (mem_toList.mp first) (mem_toList.mp second)
      rw [same]
      exact Std.ReflCmp.compare_self

theorem Keyed.deviceIds_nodup {store : PairingStore} (keyed : store.Keyed) : store.deviceIds.Nodup := by
  have ids : store.deviceIds = store.devices.toList.map Prod.fst := by
    rw [deviceIds, values, List.map_map]
    refine List.map_congr_left fun entry member => ?_
    exact keyed entry.1 entry.2 (mem_toList.mp member)
  rw [ids, List.Nodup, List.pairwise_map]
  refine Std.ExtTreeMap.distinct_keys_toList.imp fun different same => different ?_
  rw [same]
  exact Std.ReflCmp.compare_self

/-- A credential id is found with the one device that holds it. -/
theorem Sound.findCredential_eq_some {store : PairingStore} (sound : store.Sound) {id : String} {device : PairedDevice}
    {credential : PairedCredential} :
    store.findCredential id = some (device, credential) ↔
      device ∈ store.values ∧ credential ∈ device.credentials ∧ credential.credentialId = id := by
  obtain ⟨own, apart⟩ := credentialIds_nodup.mp sound.sole
  have holds (owner : PairedDevice) (member : owner ∈ store.values) (held : PairedCredential) :
      owner.credential id = some held ↔ held ∈ owner.credentials ∧ held.credentialId = id := by
    obtain ⟨key, found⟩ := mem_values.mp member
    exact PairedDevice.credential_eq_some (own key owner found)
  have found {owner : PairedDevice} {held : PairedCredential} (run : store.findCredential id = some (owner, held)) :
      owner ∈ store.values ∧ held ∈ owner.credentials ∧ held.credentialId = id := by
    obtain ⟨other, member, brings⟩ := List.exists_of_findSome?_eq_some run
    obtain ⟨there, present, same⟩ := Option.map_eq_some_iff.mp brings
    rw [Prod.mk.injEq] at same
    obtain ⟨rfl, rfl⟩ := same
    exact ⟨member, (holds other member there).mp present⟩
  constructor
  · exact found
  · intro ⟨member, held, named⟩
    rcases run : store.findCredential id with _ | ⟨owner, other⟩
    · have missed := List.findSome?_eq_none_iff.mp run device member
      rw [(holds device member credential).mpr ⟨held, named⟩] at missed
      cases missed
    · obtain ⟨first, there, same⟩ := found run
      obtain ⟨key, kept⟩ := mem_values.mp member
      obtain ⟨place, stored⟩ := mem_values.mp first
      have one : place = key := by
        by_contra different
        have disjoint := apart place key owner device different stored kept
        refine disjoint (List.mem_map_of_mem there) ?_
        rw [same, ← named]
        exact List.mem_map_of_mem held
      rw [one, kept, Option.some.injEq] at stored
      subst stored
      rw [List.inj_on_of_nodup_map (own key device kept) there held (same.trans named.symm)]

/-- The store with one device put under its id. -/
def put (store : PairingStore) (device : PairedDevice) : PairingStore :=
  { store with devices := store.devices.insert device.deviceId device }

theorem put_device {store : PairingStore} {device : PairedDevice} {id : String} :
    (store.put device).device id = if device.deviceId = id then some device else store.device id := by
  simp only [put, PairingStore.device, Std.ExtTreeMap.getElem?_insert, Std.LawfulEqCmp.compare_eq_iff_eq]

theorem Keyed.put {store : PairingStore} (keyed : store.Keyed) (device : PairedDevice) : (store.put device).Keyed := by
  intro id found here
  rw [put_device] at here
  split at here
  · rename_i same
    rw [← Option.some.inj here, same]
  · exact keyed id found here

/-- The store without a device. -/
def without (store : PairingStore) (id : String) : PairingStore := { store with devices := store.devices.erase id }

theorem without_device {store : PairingStore} {id other : String} :
    (store.without id).device other = if id = other then none else store.device other := by
  simp only [without, PairingStore.device, Std.ExtTreeMap.getElem?_erase, Std.LawfulEqCmp.compare_eq_iff_eq]

theorem merged_deviceId (store : PairingStore) (device : PairedDevice) :
    (store.merged device).deviceId = device.deviceId := by
  unfold merged
  split <;> rfl

/-- A merged device has its own credentials and, of those it had, the others. -/
theorem mem_merged {store : PairingStore} {device : PairedDevice} {credential : PairedCredential} :
    credential ∈ (store.merged device).credentials ↔
      credential ∈ device.credentials ∨ ∃ known, store.device device.deviceId = some known ∧
        credential ∈ known.credentials ∧ credential.credentialId ∉ device.credentialIds := by
  unfold merged
  rcases store.device device.deviceId with _ | known
  · simp
  · simp [PairedDevice.credentialIds]

theorem merged_nodup {store : PairingStore} {device : PairedDevice} (sound : store.Sound)
    (own : device.credentialIds.Nodup) : (store.merged device).credentialIds.Nodup := by
  unfold merged
  rcases found : store.device device.deviceId with _ | known
  · exact own
  · have kept := (credentialIds_nodup.mp sound.sole).1 _ known found
    simp only [PairedDevice.credentialIds, List.map_append] at own kept ⊢
    refine List.nodup_append.mpr ⟨own, kept.sublist (List.filter_sublist.map _), ?_⟩
    intro id mine other left same
    obtain ⟨credential, member, rfl⟩ := List.mem_map.mp left
    rw [same] at mine
    simp only [List.mem_filter, decide_eq_true_eq] at member
    exact member.2 mine

theorem checkConflicts_eq_ok {store : PairingStore} {device : PairedDevice} :
    store.checkConflicts device = .ok () ↔
      ∀ credential ∈ device.credentials, ∀ owner existing,
        store.findCredential credential.credentialId = some (owner, existing) →
          owner.deviceId = device.deviceId ∧ existing.publicKey = credential.publicKey := by
  refine except_forM_eq_ok.trans (forall₂_congr fun credential _ => ?_)
  unfold checkConflict
  rcases store.findCredential credential.credentialId with _ | ⟨owner, existing⟩
  · simp [except_pure_eq_ok]
  · simp [except_require_eq_ok]

/-- A conflict is all that is refused. -/
theorem checkConflicts_eq_error {store : PairingStore} {device : PairedDevice} {error : PairingError}
    (refused : store.checkConflicts device = .error error) : ∃ id, error = .credentialConflict id := by
  obtain ⟨credential, _, failed⟩ := except_forM_eq_error refused
  unfold checkConflict at failed
  split at failed
  · unfold require at failed
    split at failed
    · cases failed
    · exact ⟨_, (Except.error.inj failed).symm⟩
  · cases failed

/-- Merging a device in keeps the store sound, when no id of it is bound elsewhere. -/
theorem Sound.put {store : PairingStore} (sound : store.Sound) {device : PairedDevice}
    (own : device.credentialIds.Nodup) (free : store.checkConflicts device = .ok ()) :
    (store.put (store.merged device)).Sound := by
  obtain ⟨each, apart⟩ := credentialIds_nodup.mp sound.sole
  have fresh (id : String) (another : PairedDevice) (other : id ≠ device.deviceId)
      (found : store.device id = some another) :
      List.Disjoint (store.merged device).credentialIds another.credentialIds := by
    intro name mine theirs
    obtain ⟨credential, member, rfl⟩ := List.mem_map.mp mine
    rcases mem_merged.mp member with incoming | ⟨known, there, held, _⟩
    · obtain ⟨taken, holds, same⟩ := List.mem_map.mp theirs
      have owner := sound.findCredential_eq_some.mpr ⟨mem_values.mpr ⟨id, found⟩, holds, same⟩
      have named := (checkConflicts_eq_ok.mp free credential incoming another taken owner).1
      exact other ((sound.keyed id another found).symm.trans named)
    · exact apart _ id known another other.symm there found (List.mem_map_of_mem held) theirs
  refine ⟨?_, credentialIds_nodup.mpr ⟨?_, ?_⟩⟩
  · intro id another found
    rw [put_device] at found
    split at found
    · rename_i same
      cases found
      exact same
    · exact sound.keyed id another found
  · intro id another found
    rw [put_device] at found
    split at found
    · cases found
      exact merged_nodup sound own
    · exact each id another found
  · intro id other first second different found seen
    rw [put_device, merged_deviceId] at found seen
    by_cases here : device.deviceId = id
    · by_cases there : device.deviceId = other
      · exact absurd (here.symm.trans there) different
      · rw [if_pos here, Option.some.injEq] at found
        rw [if_neg there] at seen
        rw [← found]
        exact fresh other second (fun same => there same.symm) seen
    · rw [if_neg here] at found
      by_cases there : device.deviceId = other
      · rw [if_pos there, Option.some.injEq] at seen
        rw [← seen]
        exact (fresh id first (fun same => here same.symm) found).symm
      · rw [if_neg there] at seen
        exact apart id other first second different found seen

theorem Sound.without {store : PairingStore} (sound : store.Sound) (id : String) : (store.without id).Sound := by
  obtain ⟨each, apart⟩ := credentialIds_nodup.mp sound.sole
  have before {other : String} {device : PairedDevice} (found : (store.without id).device other = some device) :
      store.device other = some device := by
    rw [without_device] at found
    split at found
    · cases found
    · exact found
  exact ⟨fun other device found => sound.keyed other device (before found), credentialIds_nodup.mpr
    ⟨fun other device found => each other device (before found), fun one other device another different found seen =>
      apart one other device another different (before found) (before seen)⟩⟩

theorem Sound.empty (path : Option Path) : (⟨path, ∅⟩ : PairingStore).Sound := by
  have none (id : String) : (⟨path, ∅⟩ : PairingStore).device id = none := Std.ExtTreeMap.getElem?_empty
  refine ⟨fun id device found => ?_, credentialIds_nodup.mpr ⟨fun id device found => ?_, ?_⟩⟩
  · rw [none] at found
    cases found
  · rw [none] at found
    cases found
  · intro id other device another _ found
    rw [none] at found
    cases found

end PairingStore

end BioAuth.Verifier
