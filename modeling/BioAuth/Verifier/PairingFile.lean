import BioAuth.Locker.Scratch
import BioAuth.Verifier.Pairing

namespace BioAuth.Verifier
open BioAuth
open BioAuth.Locker (Path Node Disk LockerError LockerM World Scratch)

/-- What follows the stem of a name is one dot and octets without one, if anything. -/
theorem fileStem_cases (name : Bytes) :
    fileStem name = name ∨ ∃ extension, 0x2e ∉ extension ∧ name = fileStem name ++ 0x2e :: extension := by
  have split := List.takeWhile_append_dropWhile (p := (· ≠ 0x2e)) (l := name.reverse)
  rcases rest : name.reverse.dropWhile (· ≠ 0x2e) with _ | ⟨dot, before⟩
  · exact Or.inl (by rw [fileStem, rest])
  · by_cases first : before = []
    · exact Or.inl (by rw [fileStem, rest]; exact if_pos first)
    · have stem : fileStem name = before.reverse := by rw [fileStem, rest]; exact if_neg first
      rw [stem]
      have filled : name.reverse.dropWhile (· ≠ 0x2e) ≠ [] := by rw [rest]; exact List.cons_ne_nil _ _
      have stopped := List.head_dropWhile_not (p := (· ≠ 0x2e)) (l := name.reverse) filled
      simp only [rest, List.head_cons, decide_eq_false_iff_not, ne_eq, not_not] at stopped
      refine Or.inr ⟨(name.reverse.takeWhile (· ≠ 0x2e)).reverse, ?_, ?_⟩
      · rw [List.mem_reverse]
        intro member
        simpa using List.mem_takeWhile_imp member
      · rw [rest, stopped] at split
        have turned := congrArg List.reverse split
        rw [List.reverse_reverse, List.reverse_append, List.reverse_cons, List.append_assoc] at turned
        exact turned.symm

/-- The scratch file is another file than the store. -/
theorem withExtension_ne (path : Path) : withExtension path "json.tmp" ≠ path := by
  intro same
  have name : fileStem path.name ++ [0x2e] ++ utf8 "json.tmp" = path.name := congrArg Path.name same
  rw [List.append_assoc] at name
  rcases fileStem_cases path.name with whole | ⟨extension, undotted, split⟩
  · rw [whole] at name
    exact absurd (List.append_cancel_left (name.trans (List.append_nil _).symm)) (List.cons_ne_nil _ _)
  · rw [split] at name
    have tail := List.append_cancel_left (name.trans (by rw [← split]; exact split))
    rw [List.singleton_append, List.cons.injEq] at tail
    rw [← tail.2] at undotted
    exact undotted (by decide)

section Replace
variable {σ : Type}

/-- Nothing was done to the platform, and to the disk only under one name. -/
def Apart (temp : Path) (w t : World σ) : Prop :=
  t.disk = w.disk ∧ ∀ path ≠ temp, t.files path = w.files path

theorem Apart.of_ground {temp : Path} {w t : World σ} (ground : t.ground = w.ground) : Apart temp w t := by
  simp only [World.ground, Prod.mk.injEq] at ground
  exact ⟨ground.1, fun path _ => by rw [ground.2]⟩

theorem Apart.of_scratch {temp : Path} {content : Bytes} {w t : World σ}
    (scratch : Scratch w.disk w.files temp content t) : Apart temp w t := by
  obtain ⟨disk, attributes, files⟩ := scratch
  exact ⟨disk, fun path other => by rw [files, Function.update_of_ne other]⟩

theorem createTemp_ends (temp : Path) (w : World σ) :
    (createTemp temp : LockerM σ Unit).Ends (fun _ t => Scratch w.disk w.files temp [] t)
      (fun _ t => Apart temp w t) w := by
  refine Fallible.Ends.tryCatch (fun _ t => t.ground = w.ground)
    ((Locker.createNew_ends temp w).mono (fun _ _ created => created.2.2) fun _ _ failed => failed.1) ?_
  intro error t ground
  have disk : t.disk = w.disk := congrArg Prod.fst ground
  have files : t.files = w.files := congrArg Prod.snd ground
  split
  · refine Fallible.Ends.bind (fun _ u => u.disk = w.disk ∧ u.files = Function.update w.files temp none)
      ((Locker.removeAs_ends .remove temp t).mono ?_ ?_) ?_
    · intro _ u removed
      exact ⟨removed.1.trans disk, by rw [removed.2.2, files]⟩
    · intro _ u failed
      exact Apart.of_ground (failed.1.trans ground)
    · intro _ u cleared
      have again := Locker.createNew_ends temp u
      rw [cleared.1, cleared.2] at again
      refine again.mono ?_ ?_
      · intro _ v created
        obtain ⟨_, _, same, attributes, holds⟩ := created
        exact ⟨same, attributes, by rw [holds, Function.update_idem]⟩
      · intro _ v failed
        have kept : v.ground = u.ground := failed.1
        have seen : v.files = u.files := congrArg Prod.snd kept
        have same : v.disk = u.disk := congrArg Prod.fst kept
        refine ⟨same.trans cleared.1, fun path other => ?_⟩
        rw [seen, cleared.2, Function.update_of_ne other]
  · exact Apart.of_ground ground

section Scratch
variable {files : Path → Option Node} {disk : Disk} {temp : Path} {content : Bytes} {w : World σ}

/-- A call that leaves the disk alone leaves the scratch file as it is. -/
theorem syscall_scratch (kind : Locker.Syscall) (path : Path) (scratch : Scratch disk files temp content w) :
    (Locker.syscall kind path : LockerM σ Unit).Ends (fun _ t => Scratch disk files temp content t)
      (fun _ t => Scratch disk files temp content t) w :=
  ((Locker.syscall_keeps kind path).ends w).mono (fun _ _ kept => scratch.of_ground kept.2)
    fun _ _ kept => scratch.of_ground kept.2

theorem restrictHandle_ends (scratch : Scratch disk files temp content w) :
    (restrictHandle temp : LockerM σ Unit).Ends (fun _ t => Scratch disk files temp content t)
      (fun _ t => Scratch disk files temp content t) w := by
  refine Fallible.Ends.bind _ (syscall_scratch .setAttributes temp scratch) ?_
  intro _ t there
  obtain ⟨same, attributes, holds⟩ := there
  have found : t.files temp = some (.file content attributes 1) := by rw [holds, Function.update_self]
  unfold Fallible.Ends
  rw [Fallible.modify_run, found]
  exact ⟨same, _, by dsimp only; rw [holds, Function.update_idem]⟩

end Scratch

/-- A file is replaced as a whole, or it is as it was. -/
theorem replaceFile_ends (path : Path) (json : Bytes) (w : World σ) :
    (replaceFile path json : LockerM σ Unit).Ends
      (fun _ t => t.disk = w.disk ∧ ∃ attributes, t.files path = some (.file json attributes 1))
      (fun _ t => t.disk = w.disk ∧ t.files path = w.files path) w := by
  have apart := withExtension_ne path
  have kept (t : World σ) (still : Apart (withExtension path "json.tmp") w t) :
      t.disk = w.disk ∧ t.files path = w.files path := ⟨still.1, still.2 path apart.symm⟩
  refine Fallible.Ends.bind _ ((createTemp_ends _ w).mono (fun _ _ done => done) fun _ => kept) ?_
  intro _ t created
  refine Fallible.Ends.bind _ ((restrictHandle_ends created).mono (fun _ _ done => done) fun _ t still =>
    kept t (.of_scratch still)) ?_
  intro _ t narrowed
  refine Fallible.Ends.bind (fun _ t => Scratch w.disk w.files (withExtension path "json.tmp") json t)
    ((Locker.writeAll_appends json [] t narrowed).mono ?_ ?_) ?_
  · intro _ u wrote
    obtain ⟨more, rfl, scratch⟩ := wrote
    exact scratch
  · intro _ u failed
    obtain ⟨_, more, scratch⟩ := failed
    exact kept u (.of_scratch scratch)
  intro _ t written
  refine Fallible.Ends.bind _ ((syscall_scratch .sync _ written).mono (fun _ _ done => done) fun _ t still =>
    kept t (.of_scratch still)) ?_
  intro _ t synced
  have held := synced
  obtain ⟨disk, attributes, holds⟩ := held
  refine (Locker.rename_ends (withExtension path "json.tmp") path t).mono ?_ ?_
  · intro _ u renamed
    obtain ⟨same, _, _, node, found, moved⟩ := renamed
    rw [holds, Function.update_self, Option.some.injEq] at found
    exact ⟨same.trans disk, attributes, by rw [moved, Function.update_self, found]⟩
  · intro _ u failed
    have still : Scratch w.disk w.files (withExtension path "json.tmp") json u := synced.of_ground failed.1
    exact kept u (.of_scratch still)

theorem readFile_keeps (path : Path) : (readFile path : LockerM σ Bytes).Keeps World.ground := by
  refine (Locker.openRead_keeps path).bind fun stream => ?_
  cases stream.ending with
  | none => exact Fallible.Keeps.pure _
  | some error => exact Fallible.Keeps.throw _

/-- A read that ends well has read what the file holds. -/
def Truthful (disk : Disk) : Prop :=
  ∀ n path content, (disk.reads n path content).ending = none → (disk.reads n path content).bytes = content

theorem readFile_eq_ok {path : Path} {w t : World σ} {content bytes : Bytes} (truthful : Truthful w.disk)
    (held : Locker.contentAt w.files path = some content) (run : readFile path w = (.ok bytes, t)) : bytes = content := by
  obtain ⟨target, attributes, links, leads, found⟩ := Locker.contentAt_eq_some.mp held
  obtain ⟨stream, u, opened, rest⟩ := Fallible.bind_eq_ok.mp run
  rcases refused : w.disk.verdict w.clock .openRead path with _ | error
  · simp only [Locker.openRead, Locker.syscall, Locker.followed, Locker.entry, Fallible.bind_run, Fallible.get_run,
      Fallible.pure_run, refused, leads, found, Prod.mk.injEq, Except.ok.injEq] at opened
    rcases ending : stream.ending with _ | error
    · rw [ending] at rest
      have same := truthful (w.clock + 1) target content (by rw [opened.1, ending])
      rw [opened.1] at same
      exact (Fallible.pure_eq_ok.mp rest).1.symm.trans same
    · rw [ending] at rest
      cases congrArg Prod.fst rest
  · simp [Locker.openRead, Locker.syscall, Fallible.bind_run, refused] at opened

end Replace

section Persist
variable {σ α : Type} [JsonText]

/-- The file of a store holds it. -/
def Saved (store : PairingStore) (path : Path) (files : Path → Option Node) : Prop :=
  ∃ json attributes links, JsonText.toVecPretty store.file.serialize = .ok json ∧
    files path = some (.file json attributes links)

omit [JsonText] in
theorem onDisk_ends {x : LockerM σ α} {good : α → World σ → Prop} {bad : LockerError → World σ → Prop} {s : Kept σ}
    (ends : x.Ends good bad s.world) :
    (onDisk x).Ends (fun a t => t.store = s.store ∧ good a t.world)
      (fun error t => (∀ id, error ≠ .credentialConflict id) ∧ t.store = s.store ∧ ∃ cause, bad cause t.world) s := by
  unfold Fallible.Ends onDisk
  rcases run : x s.world with ⟨error | a, t⟩
  · refine ⟨fun id => ?_, rfl, error, ends.bad_of_run run⟩
    cases error <;> exact PairingError.noConfusion
  · exact ⟨rfl, ends.good_of_run run⟩

/-- Either the file holds the store afterwards, or it is as it was. -/
theorem persist_ends (s : Kept σ) :
    (persist : PairingM σ Unit).Ends
      (fun _ t => t.store = s.store ∧ t.world.disk = s.world.disk ∧
        ∀ path, s.store.path = some path → Saved s.store path t.world.files)
      (fun error t => (∀ id, error ≠ .credentialConflict id) ∧ t.store = s.store ∧ t.world.disk = s.world.disk ∧
        ∃ path, s.store.path = some path ∧ t.world.files path = s.world.files path) s := by
  unfold persist
  refine Fallible.Ends.bind_of_run (Fallible.get_run s) ?_
  dsimp only
  rcases named : s.store.path with _ | path
  · exact ⟨rfl, rfl, fun path nowhere => nomatch nowhere⟩
  refine Fallible.Ends.bind (fun _ t => t.store = s.store ∧ t.world.ground = s.world.ground)
    ((onDisk_ends ((Locker.syscall_keeps .create ⟨path.directory, []⟩).ends s.world)).mono ?_ ?_) ?_
  · intro _ t done
    exact ⟨done.1, done.2.2⟩
  · intro _ t failed
    obtain ⟨other, store, _, _, ground⟩ := failed
    exact ⟨other, store, congrArg Prod.fst ground, path, rfl, congrFun (congrArg Prod.snd ground) path⟩
  intro _ t made
  obtain ⟨store, ground⟩ := made
  have disk : t.world.disk = s.world.disk := congrArg Prod.fst ground
  have files : t.world.files = s.world.files := congrArg Prod.snd ground
  rcases written : JsonText.toVecPretty s.store.file.serialize with error | json
  · exact ⟨fun id => PairingError.noConfusion, store, disk, path, rfl, congrFun files path⟩
  · refine (onDisk_ends (replaceFile_ends path json t.world)).mono ?_ ?_
    · intro _ u done
      obtain ⟨same, still, attributes, found⟩ := done
      refine ⟨same.trans store, still.trans disk, fun other here => ?_⟩
      cases here
      exact ⟨json, attributes, 1, written, found⟩
    · intro _ u failed
      obtain ⟨other, same, _, still, found⟩ := failed
      exact ⟨other, same.trans store, still.trans disk, path, rfl, by rw [found, files]⟩

omit [JsonText] in
theorem mem_toList {devices : Devices} {id : String} {device : PairedDevice} :
    (id, device) ∈ devices.toList ↔ devices[id]? = some device :=
  Std.ExtTreeMap.mem_toList_iff_getElem?_eq_some

omit [JsonText] in
theorem ofList_toList (devices : Devices) : Std.ExtTreeMap.ofList devices.toList compare = devices := by
  refine Std.ExtTreeMap.ext_getElem? fun id => ?_
  rcases found : devices[id]? with _ | device
  · refine Std.ExtTreeMap.getElem?_ofList_of_contains_eq_false ?_
    rw [← Bool.not_eq_true, List.contains_iff_mem, List.mem_map]
    intro ⟨⟨other, device⟩, member, same⟩
    dsimp only at same
    rw [same, mem_toList, found] at member
    cases member
  · exact Std.ExtTreeMap.getElem?_ofList_of_mem Std.ReflCmp.compare_self Std.ExtTreeMap.distinct_keys_toList
      (mem_toList.mpr found)

/-- Each device is kept under its own id. -/
def PairingStore.Keyed (store : PairingStore) : Prop :=
  ∀ id device, store.device id = some device → device.deviceId = id

/-- The devices of a store are read back from its file. -/
theorem readStore_file {store : PairingStore} {json : Bytes} (faithful : JsonText.Faithful) (keyed : store.Keyed)
    (written : JsonText.toVecPretty store.file.serialize = .ok json) : readStore json = .ok store.devices := by
  have read := faithful _ _ written
  have listed : store.values.map (fun device => (device.deviceId, device)) = store.devices.toList := by
    rw [PairingStore.values, List.map_map]
    calc store.devices.toList.map _ = store.devices.toList.map id := by
          refine List.map_congr_left fun entry member => ?_
          obtain ⟨id, device⟩ := entry
          exact Prod.ext (keyed id device (mem_toList.mp member)) rfl
      _ = store.devices.toList := List.map_id _
  simp only [readStore, except_bind_eq_ok, except_pure_eq_ok, read, Except.ok.injEq, exists_eq_left',
    StoreFile.deserialize_serialize]
  rw [PairingStore.file, listed, ofList_toList]

theorem loaded_error (path : Path) (error : LockerError) :
    loaded path (.error error) = .ok ⟨some path, ∅⟩ ∨ loaded path (.error error) = .error (.ofLocker error) := by
  unfold loaded
  split
  · contradiction
  · exact Or.inl rfl
  · rename_i same
    rw [Except.error.injEq] at same
    exact Or.inr (by rw [same])

/-- What loading may bring when the file holds a store: the store, or nothing where the platform denies there is
a file. -/
theorem load_saved {store : PairingStore} {path : Path} {w : World σ} (faithful : JsonText.Faithful)
    (truthful : Truthful w.disk) (keyed : store.Keyed) (saved : Saved store path w.files) :
    (load (some path)).Ends
      (fun loaded t => t.ground = w.ground ∧ (loaded = ⟨some path, store.devices⟩ ∨ loaded = ⟨some path, ∅⟩))
      (fun _ t => t.ground = w.ground) w := by
  obtain ⟨json, attributes, links, written, found⟩ := saved
  have kept := readFile_keeps path w
  unfold Fallible.Ends load
  dsimp only
  rcases run : readFile path w with ⟨error | bytes, t⟩
  · rw [run] at kept
    rcases loaded_error path error with missing | failed
    · rw [missing]
      exact ⟨kept, Or.inr rfl⟩
    · rw [failed]
      exact kept
  · rw [run] at kept
    have whole := readFile_eq_ok truthful (Locker.contentAt_file found) run
    have read : loaded path (.ok bytes) = .ok ⟨some path, store.devices⟩ := by
      rw [loaded, whole, readStore_file faithful keyed written]
    rw [read]
    exact ⟨kept, Or.inl rfl⟩

omit [JsonText] in
/-- Nothing is read where there is no file. -/
theorem readFile_vacant {path : Path} {w : World σ} (vacant : w.files path = none) :
    (readFile path : LockerM σ Bytes).Ends (fun _ _ => False)
      (fun error t => t.ground = w.ground ∧ (w.disk.Faultless → error = .io .notFound)) w := by
  have leads : Locker.resolve w.files (Locker.maxLinks + 1) path = some path := by rw [Locker.resolve, vacant]
  refine Fallible.Ends.bind (fun _ _ => False) ?_ fun _ _ never => never.elim
  unfold Fallible.Ends
  rcases refused : w.disk.verdict w.clock .openRead path with _ | error
  · simp only [Locker.openRead, Locker.syscall, Locker.followed, Locker.entry, Fallible.bind_run, Fallible.get_run,
      Fallible.pure_run, Fallible.throw_run, refused, leads, vacant]
    exact ⟨rfl, fun _ => trivial⟩
  · simp only [Locker.openRead, Locker.syscall, Fallible.bind_run, refused]
    refine ⟨rfl, fun faultless => ?_⟩
    rw [faultless] at refused
    cases refused

/-- Where there is no file, loading brings an empty store or fails. -/
theorem load_vacant {path : Path} {w : World σ} (vacant : w.files path = none) :
    (load (some path)).Ends (fun loaded t => t.ground = w.ground ∧ loaded = ⟨some path, ∅⟩)
      (fun _ t => t.ground = w.ground ∧ ¬w.disk.Faultless) w := by
  have missed := readFile_vacant vacant
  unfold Fallible.Ends load
  dsimp only
  rcases run : readFile path w with ⟨error | bytes, t⟩
  · have failed := missed.bad_of_run run
    rcases loaded_error path error with missing | refused
    · rw [missing]
      exact ⟨failed.1, rfl⟩
    · rw [refused]
      refine ⟨failed.1, fun faultless => ?_⟩
      rw [failed.2 faultless, loaded] at refused
      cases refused
  · exact (missed.good_of_run run).elim

/-- On a platform that refuses nothing, what the file holds is what is loaded. -/
theorem load_works {store : PairingStore} {path : Path} {w : World σ} (faithful : JsonText.Faithful)
    (keyed : store.Keyed) (saved : Saved store path w.files) (faultless : w.disk.Faultless) (honest : w.disk.Honest) :
    (load (some path) w).1 = .ok ⟨some path, store.devices⟩ := by
  obtain ⟨json, attributes, links, written, found⟩ := saved
  have leads : Locker.resolve w.files (Locker.maxLinks + 1) path = some path := by rw [Locker.resolve, found]
  have read : (readFile path w).1 = .ok json := by
    simp only [readFile, Locker.openRead, Locker.syscall, Locker.followed, Locker.entry, Fallible.bind_run, Fallible.get_run,
      Fallible.pure_run, faultless _ _ _, leads, found, honest _ _ _]
  unfold load
  dsimp only
  rw [read, loaded, readStore_file faithful keyed written]

omit [JsonText] in
/-- Devices that are put in under their ids leave each device under its own. -/
theorem keyed_insertMany (listed : List PairedDevice) (path : Option Path) (devices : Devices)
    (keyed : PairingStore.Keyed ⟨path, devices⟩) :
    PairingStore.Keyed ⟨path, devices.insertMany (listed.map fun device => (device.deviceId, device))⟩ := by
  induction listed generalizing devices with
  | nil => exact keyed
  | cons device listed ih =>
    rw [List.map_cons, Std.ExtTreeMap.insertMany_cons]
    refine ih _ fun id found here => ?_
    rw [PairingStore.device, Std.ExtTreeMap.getElem?_insert] at here
    split at here
    · rename_i same
      rw [← Option.some.inj here, Std.LawfulEqCmp.eq_of_compare same]
    · exact keyed id found here

/-- Whatever file it is read from, a store keeps each device under its own id. -/
theorem load_keyed {path : Option Path} {w t : World σ} {store : PairingStore} (run : load path w = (.ok store, t)) :
    store.Keyed := by
  have empty : ∀ path, PairingStore.Keyed ⟨path, ∅⟩ := fun _ id device here => by
    rw [PairingStore.device, Std.ExtTreeMap.getElem?_empty] at here
    cases here
  cases path with
  | none =>
    cases run
    exact empty none
  | some path =>
    have read : loaded path (readFile path w).1 = .ok store := congrArg Prod.fst run
    unfold loaded at read
    split at read
    · rename_i bytes _
      rcases parsed : readStore bytes with error | devices <;> rw [parsed] at read
      · cases read
      · cases read
        simp only [readStore, except_bind_eq_ok, except_pure_eq_ok] at parsed
        obtain ⟨_, _, file, _, rfl⟩ := parsed
        rw [Std.ExtTreeMap.ofList_eq_insertMany_empty]
        exact keyed_insertMany _ _ _ (empty _)
    · cases read
      exact empty _
    · cases read

end Persist

end BioAuth.Verifier
