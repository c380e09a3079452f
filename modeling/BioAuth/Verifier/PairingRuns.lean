import BioAuth.Locker.UnlockEnds
import BioAuth.Verifier.PairingInvariant

namespace BioAuth.Verifier
open BioAuth
open BioAuth.Locker (Path World)
open BioAuth.Protocol (toBase64url)

section Calls
variable {σ : Type} [JsonText]

/-- A device is merged in and the file written, or its id is bound elsewhere and nothing happens. Where the file is not
written it stays as it was. -/
theorem insert_ends (device : PairedDevice) (s : Kept σ) :
    (insert device).Ends
      (fun _ t => s.store.checkConflicts device = .ok () ∧ t.store = s.store.put (s.store.merged device) ∧
        t.world.disk = s.world.disk ∧ ∀ path, s.store.path = some path → Saved t.store path t.world.files)
      (fun error t => s.store.checkConflicts device = .error error ∧ t = s ∨
        s.store.checkConflicts device = .ok () ∧ (∀ id, error ≠ .credentialConflict id) ∧
          t.store = s.store.put (s.store.merged device) ∧ t.world.disk = s.world.disk ∧
            ∃ path, s.store.path = some path ∧ t.world.files path = s.world.files path) s := by
  unfold insert
  refine Fallible.Ends.bind_of_run (Fallible.get_run s) ?_
  dsimp only
  rcases checked : s.store.checkConflicts device with error | _
  · exact Or.inl ⟨rfl, rfl⟩
  · let merged : Kept σ := { s with store := s.store.put (s.store.merged device) }
    have put : setDevices (fun devices => devices.insert device.deviceId (s.store.merged device)) s =
        ((.ok (), merged) : Except PairingError Unit × Kept σ) := by
      simp only [merged, PairingStore.put, PairingStore.merged_deviceId]
      rfl
    refine Fallible.Ends.bind_of_run (a := ()) (t := s) rfl ?_
    refine Fallible.Ends.bind_of_run put ((persist_ends merged).mono ?_ ?_)
    · intro _ t done
      obtain ⟨store, disk, saved⟩ := done
      exact ⟨rfl, store, disk, fun path named => by rw [store]; exact saved path named⟩
    · intro _ t failed
      obtain ⟨other, store, disk, path, named, kept⟩ := failed
      exact Or.inr ⟨rfl, other, store, disk, path, named, kept⟩

/-- A device is taken out and the file written, or it is unknown and nothing happens. -/
theorem remove_ends (id : String) (s : Kept σ) :
    (remove id).Ends
      (fun device t => s.store.device id = some device ∧ t.store = s.store.without id ∧
        t.world.disk = s.world.disk ∧ ∀ path, s.store.path = some path → Saved t.store path t.world.files)
      (fun error t => s.store.device id = none ∧ error = .unknownDevice id ∧ t = s ∨
        s.store.device id ≠ none ∧ t.store = s.store.without id ∧ t.world.disk = s.world.disk ∧
            ∃ path, s.store.path = some path ∧ t.world.files path = s.world.files path) s := by
  unfold remove
  refine Fallible.Ends.bind_of_run (Fallible.get_run s) ?_
  dsimp only
  rcases found : s.store.device id with _ | device
  · exact Or.inl ⟨rfl, rfl, rfl⟩
  · let fewer : Kept σ := { s with store := s.store.without id }
    refine Fallible.Ends.bind_of_run (a := ⟨⟩) (t := fewer) rfl ?_
    refine Fallible.Ends.bind _ ((persist_ends fewer).mono (fun _ _ done => done) ?_) ?_
    · intro _ t failed
      obtain ⟨_, store, disk, path, named, kept⟩ := failed
      exact Or.inr ⟨nofun, store, disk, path, named, kept⟩
    · intro _ t done
      obtain ⟨store, disk, saved⟩ := done
      exact ⟨rfl, store, disk, fun path named => by rw [store]; exact saved path named⟩

/-- A call to a store, at its owner's hand. Loading starts over from the file. -/
inductive StoreCall
  | insert (device : PairedDevice)
  | remove (deviceId : String)
  | load

namespace StoreCall

/-- What the call leaves, whether it succeeds or not. A store that cannot be loaded does not replace the one there is. -/
def after (s : Kept σ) : StoreCall → Kept σ
  | .insert device => (Verifier.insert device s).2
  | .remove deviceId => (Verifier.remove deviceId s).2
  | .load =>
    match Verifier.load s.store.path s.world with
    | (.ok store, world) => ⟨store, world⟩
    | (.error _, world) => { s with world }

/-- A device is inserted with each of its credentials once. -/
def Own : StoreCall → Prop
  | .insert device => device.credentialIds.Nodup
  | _ => True

end StoreCall

/-- The store is sound, and so is what its file holds, if there is one. -/
structure Kept.Sound (s : Kept σ) : Prop where
  store : s.store.Sound
  truthful : Truthful s.world.disk
  file : ∀ path, s.store.path = some path →
    s.world.files path = none ∨ ∃ saved : PairingStore, saved.Sound ∧ Saved saved path s.world.files

theorem Kept.Sound.of_kept {s t : Kept σ} (sound : s.Sound) (store : t.store.Sound) (place : t.store.path = s.store.path)
    (disk : t.world.disk = s.world.disk)
    (file : ∀ path, s.store.path = some path → t.world.files path = s.world.files path) : t.Sound where
  store := store
  truthful := disk ▸ sound.truthful
  file path named := by
    rw [place] at named
    rcases sound.file path named with vacant | ⟨saved, held, json, attributes, links, written, found⟩
    · exact Or.inl ((file path named).trans vacant)
    · exact Or.inr ⟨saved, held, json, attributes, links, written, (file path named).trans found⟩

theorem Kept.Sound.of_saved {s t : Kept σ} (sound : s.Sound) (store : t.store.Sound) (disk : t.world.disk = s.world.disk)
    (file : ∀ path, t.store.path = some path → Saved t.store path t.world.files) : t.Sound where
  store := store
  truthful := disk ▸ sound.truthful
  file path named := Or.inr ⟨t.store, store, file path named⟩

theorem Kept.Sound.insert {s : Kept σ} (sound : s.Sound) {device : PairedDevice} (own : device.credentialIds.Nodup) :
    (Verifier.insert device s).2.Sound := by
  have ends := insert_ends device s
  unfold Fallible.Ends at ends
  rcases run : Verifier.insert device s with ⟨error | _, t⟩ <;> rw [run] at ends
  · rcases ends with ⟨_, same⟩ | ⟨free, _, store, disk, path, named, kept⟩
    · rw [same]
      exact sound
    · refine sound.of_kept (by rw [store]; exact sound.store.put own free) (by rw [store]; rfl) disk ?_
      intro other here
      rw [named, Option.some.injEq] at here
      rw [← here, kept]
  · obtain ⟨free, store, disk, saved⟩ := ends
    refine sound.of_saved (by rw [store]; exact sound.store.put own free) disk fun path named => saved path ?_
    rw [store] at named
    exact named

theorem Kept.Sound.remove {s : Kept σ} (sound : s.Sound) (id : String) : (Verifier.remove id s).2.Sound := by
  have ends := remove_ends id s
  unfold Fallible.Ends at ends
  rcases run : Verifier.remove id s with ⟨error | _, t⟩ <;> rw [run] at ends
  · rcases ends with ⟨_, _, same⟩ | ⟨_, store, disk, path, named, kept⟩
    · rw [same]
      exact sound
    · refine sound.of_kept (by rw [store]; exact sound.store.without id) (by rw [store]; rfl) disk ?_
      intro other here
      rw [named, Option.some.injEq] at here
      rw [← here, kept]
  · obtain ⟨_, store, disk, saved⟩ := ends
    refine sound.of_saved (by rw [store]; exact sound.store.without id) disk fun path named => saved path ?_
    rw [store] at named
    exact named

/-- What is loaded is what the file held, or an empty store. -/
theorem Kept.Sound.load (faithful : JsonText.Faithful) {s : Kept σ} (sound : s.Sound) :
    (StoreCall.after s .load).Sound := by
  unfold StoreCall.after
  rcases named : s.store.path with _ | path
  · exact ⟨.empty none, sound.truthful, fun path nowhere => nomatch nowhere⟩
  have unmoved {store : PairingStore} {world : World σ} (ground : world.ground = s.world.ground) (held : store.Sound)
      (place : store.path = s.store.path) : (⟨store, world⟩ : Kept σ).Sound :=
    sound.of_kept held place (congrArg Prod.fst ground) fun other _ => congrFun (congrArg Prod.snd ground) other
  have ends : (Verifier.load (some path)).Ends
      (fun store t => t.ground = s.world.ground ∧ store.path = some path ∧ store.Sound)
      (fun _ t => t.ground = s.world.ground) s.world := by
    rcases sound.file path named with vacant | ⟨saved, held, found⟩
    · refine (load_vacant vacant).mono ?_ fun _ _ failed => failed.1
      intro store t loaded
      rw [loaded.2]
      exact ⟨loaded.1, rfl, .empty _⟩
    · refine (load_saved faithful sound.truthful held.keyed found).mono ?_ fun _ _ failed => failed
      intro store t loaded
      rcases loaded.2 with same | same
      · rw [same]
        exact ⟨loaded.1, rfl, held.keyed, held.sole⟩
      · rw [same]
        exact ⟨loaded.1, rfl, .empty _⟩
  unfold Fallible.Ends at ends
  rcases run : Verifier.load (some path) s.world with ⟨error | store, world⟩ <;> rw [run] at ends
  · exact unmoved ends sound.store rfl
  · exact unmoved ends.1 ends.2.2 (ends.2.1.trans named.symm)

theorem Kept.Sound.step (faithful : JsonText.Faithful) {s : Kept σ} (sound : s.Sound) {call : StoreCall}
    (own : call.Own) : (call.after s).Sound := by
  cases call with
  | insert device => exact sound.insert own
  | remove deviceId => exact sound.remove deviceId
  | load => exact sound.load faithful

/-- A store that has never been written. -/
structure Kept.Fresh (s : Kept σ) : Prop where
  devices : s.store.devices = ∅
  truthful : Truthful s.world.disk
  vacant : ∀ path, s.store.path = some path → s.world.files path = none

theorem Kept.Fresh.sound {s : Kept σ} (fresh : s.Fresh) : s.Sound where
  store := by
    have same : s.store = ⟨s.store.path, ∅⟩ := by rw [← fresh.devices]
    rw [same]
    exact .empty _
  truthful := fresh.truthful
  file path named := Or.inl (fresh.vacant path named)

/-- The state after a run of calls. -/
def afterAll (s : Kept σ) (calls : List StoreCall) : Kept σ := calls.foldl StoreCall.after s

theorem Kept.Sound.run (faithful : JsonText.Faithful) {s : Kept σ} (sound : s.Sound) (calls : List StoreCall)
    (own : ∀ call ∈ calls, call.Own) : (afterAll s calls).Sound := by
  induction calls generalizing s with
  | nil => exact sound
  | cons call calls ih =>
    rw [List.forall_mem_cons] at own
    exact ih (sound.step faithful own.1) own.2

/-- What may be relied on between the calls to a store. -/
structure Kept.Orderly (s : Kept σ) : Prop where
  credentials : s.store.credentialIds.Nodup
  devices : s.store.deviceIds.Nodup
  owner : ∀ id device credential, s.store.findCredential id = some (device, credential) ↔
    device ∈ s.store.values ∧ credential ∈ device.credentials ∧ credential.credentialId = id
  /-- Pairing a known device anew keeps its other credentials as they are, and every other device. -/
  repaired : ∀ device id known, s.store.device id = some known →
    ∃ now, (insert device s).2.store.device id = some now ∧
      (id ≠ device.deviceId → now = known) ∧
      ∀ credential ∈ known.credentials, credential.credentialId ∉ device.credentialIds → credential ∈ now.credentials
  refused : ∀ device id, (insert device s).1 = .error (.credentialConflict id) → (insert device s).2 = s
  /-- Once the store is saved, any platform that refuses nothing loads an equal one. -/
  restored : ∀ path t, s.store.path = some path → persist s = (.ok (), t) →
    t.store = s.store ∧ ∀ world : World σ, world.files path = t.world.files path → world.disk.Faultless →
      world.disk.Honest → (load (some path) world).1 = .ok s.store

/-- What an insertion leaves in memory, whether the file is written or not. -/
theorem insert_store (device : PairedDevice) (s : Kept σ) :
    (insert device s).2.store = s.store ∨ (insert device s).2.store = s.store.put (s.store.merged device) := by
  have ends := insert_ends device s
  unfold Fallible.Ends at ends
  rcases run : insert device s with ⟨error | _, t⟩ <;> rw [run] at ends
  · rcases ends with ⟨_, same⟩ | ⟨_, _, store, _⟩
    · exact Or.inl (by rw [same])
    · exact Or.inr store
  · exact Or.inr ends.2.1

theorem insert_keyed (device : PairedDevice) {s : Kept σ} (keyed : s.store.Keyed) : (insert device s).2.store.Keyed := by
  rcases insert_store device s with same | put
  · rwa [same]
  · rw [put]
    exact keyed.put _

theorem Kept.Sound.orderly (faithful : JsonText.Faithful) {s : Kept σ} (sound : s.Sound) : s.Orderly where
  credentials := sound.store.sole
  devices := sound.store.keyed.deviceIds_nodup
  owner _ _ _ := sound.store.findCredential_eq_some
  repaired := by
    intro device id known found
    rcases insert_store device s with same | put
    · exact ⟨known, by rw [same, found], fun _ => rfl, fun _ member _ => member⟩
    · rw [put, PairingStore.put_device, PairingStore.merged_deviceId]
      by_cases here : device.deviceId = id
      · rw [if_pos here]
        refine ⟨_, rfl, fun other => absurd here.symm other, fun credential member other => ?_⟩
        exact PairingStore.mem_merged.mpr (Or.inr ⟨known, by rw [here, found], member, other⟩)
      · rw [if_neg here]
        exact ⟨known, found, fun _ => rfl, fun _ member _ => member⟩
  refused := by
    intro device id failed
    have ends := insert_ends device s
    unfold Fallible.Ends at ends
    rcases run : Verifier.insert device s with ⟨error | _, t⟩ <;> rw [run] at ends failed
    · rcases ends with ⟨_, same⟩ | ⟨_, other, _⟩
      · exact same
      · exact absurd (Except.error.inj failed) (other id)
    · cases failed
  restored := by
    intro path t named run
    obtain ⟨store, _, saved⟩ := (persist_ends s).good_of_run run
    refine ⟨store, fun world found faultless honest => ?_⟩
    obtain ⟨json, attributes, links, written, held⟩ := saved path named
    have same : s.store = ⟨some path, s.store.devices⟩ := by rw [← named]
    rw [same]
    exact load_works faithful sound.store.keyed ⟨json, attributes, links, written, found.trans held⟩ faultless honest

/-- Whatever becomes of each call to a store, from the first one on it is in order. -/
theorem pairing_store_orderly (faithful : JsonText.Faithful) (start : Kept σ) (fresh : start.Fresh)
    (calls : List StoreCall) (own : ∀ call ∈ calls, call.Own) : (afterAll start calls).Orderly :=
  (fresh.sound.run faithful calls own).orderly faithful

end Calls

section Plain

/-- A phone as it is paired first. -/
def plainDevice : PairedDevice where
  deviceId := "phone"
  displayName := "Phone"
  pairedAtMs := 0
  sessionIdentityPublicKey := [4]
  credentials := [{ credentialId := "login", algorithm := "EC_P256_SPKI", publicKey := [4, 1], keyKind := .strongBox,
                    purpose := .authorization, permissions := [], permissionsRevision := 0 }]

def plainText : Bytes := utf8 <| "\n".intercalate
  ["\x7b", "  \"version\": 1,", "  \"devices\": [", "    \x7b", "      \"deviceId\": \"phone\",",
    "      \"displayName\": \"Phone\",", "      \"pairedAtMs\": 0,", "      \"sessionIdentityPublicKey\": \"BA\",",
    "      \"credentials\": [", "        \x7b", "          \"credentialId\": \"login\",",
    "          \"algorithm\": \"EC_P256_SPKI\",", "          \"publicKey\": \"BAE\",",
    "          \"keyKind\": \"strong-box\",", "          \"purpose\": \"authorization\",",
    "          \"permissions\": [],", "          \"permissionsRevision\": 0", "        \x7d", "      ]", "    \x7d",
    "  ]", "\x7d"]

def plainEmptyText : Bytes := utf8 <| "\n".intercalate ["\x7b", "  \"version\": 1,", "  \"devices\": []", "\x7d"]

/-- A library that knows the file of that phone and the empty one. -/
abbrev plainJson : JsonText where
  toVecPretty
    | .object [("version", .number 1), ("devices", .array [])] => .ok plainEmptyText
    | .object [("version", .number 1), ("devices", .array [.object [("deviceId", .string "phone"),
        ("displayName", .string "Phone"), ("pairedAtMs", .number 0), ("sessionIdentityPublicKey", .string "BA"),
        ("credentials", .array [.object [("credentialId", .string "login"), ("algorithm", .string "EC_P256_SPKI"),
          ("publicKey", .string "BAE"), ("keyKind", .string "strong-box"), ("purpose", .string "authorization"),
          ("permissions", .array []), ("permissionsRevision", .number 0)]])]])] => .ok plainText
    | _ => .error .unwritable
  fromSlice bytes :=
    if bytes = plainText then .ok (StoreFile.serialize ⟨1, [plainDevice]⟩)
    else if bytes = plainEmptyText then .ok (StoreFile.serialize ⟨1, []⟩)
    else .error .malformed

theorem plainJson_faithful : @JsonText.Faithful plainJson := by
  have key : toBase64url [4, 1] = "BAE" := by decide +kernel
  have session : toBase64url [4] = "BA" := by decide +kernel
  have apart : plainEmptyText ≠ plainText := by decide +kernel
  intro json bytes written
  unfold JsonText.toVecPretty plainJson at written
  dsimp only at written
  split at written
  · cases written
    simp only [JsonText.fromSlice, if_neg apart, if_true]
    rfl
  · cases written
    simp only [JsonText.fromSlice, if_true, StoreFile.serialize, plainDevice, PairedDevice.serialize,
      PairedCredential.serialize, List.map_cons, List.map_nil, key, session]
    rfl
  · cases written

theorem pairing_store_orderly_plain :
    letI := plainJson
    (afterAll ⟨⟨some ⟨[], utf8 "devices.json"⟩, ∅⟩, Locker.World.holding []⟩
      [.insert plainDevice, .load, .remove "phone", .insert plainDevice]).Orderly :=
  letI := plainJson
  pairing_store_orderly plainJson_faithful _ ⟨rfl, fun _ _ _ _ => rfl, fun _ _ => rfl⟩ _ (by
    intro call member
    simp only [List.mem_cons, List.not_mem_nil, or_false] at member
    rcases member with rfl | rfl | rfl | rfl
    · exact List.nodup_singleton _
    · trivial
    · trivial
    · exact List.nodup_singleton _)

end Plain

end BioAuth.Verifier
