import BioAuth.Lib.Appends
import BioAuth.Locker.ContainerSpelling
import BioAuth.Locker.Engine

namespace BioAuth.Locker
open BioAuth

/-- Every entry of the first map is in the second, as it was. -/
def Extends (before after : Path → Option Node) : Prop :=
  ∀ path node, before path = some node → after path = some node

theorem Extends.refl (files : Path → Option Node) : Extends files files := fun _ _ found => found

/-- Adding an entry where there was none. -/
theorem Extends.update {files : Path → Option Node} {path : Path} (vacant : files path = none) (node : Option Node) :
    Extends files (Function.update files path node) := by
  intro other found same
  rw [Function.update_of_ne, same]
  rintro rfl
  rw [vacant] at same
  cases same

/-- The platform refuses nothing. -/
def Disk.Faultless (disk : Disk) : Prop := ∀ n kind path, disk.verdict n kind path = none

/-- The platform never refuses to remove a scratch file that is being dropped. -/
def Disk.Tidy (disk : Disk) : Prop := ∀ n path, disk.verdict n .discard path = none

section Ground
variable {σ α : Type}

/-- What a step that only looks around leaves as it was. -/
def World.ground (w : World σ) : Disk × (Path → Option Node) := (w.disk, w.files)

theorem syscall_keeps (kind : Syscall) (path : Path) : (syscall kind path : LockerM σ Unit).Keeps World.ground :=
  fun _ => rfl

theorem entry_keeps (path : Path) : (entry path : LockerM σ Node).Keeps World.ground := by
  intro w
  unfold entry
  rw [Fallible.bind_run_ok _ (Fallible.get_run w)]
  cases w.files path <;> rfl

theorem followed_keeps (path : Path) : (followed path : LockerM σ Path).Keeps World.ground := by
  intro w
  unfold followed
  rw [Fallible.bind_run_ok _ (Fallible.get_run w)]
  cases resolve w.files (maxLinks + 1) path <;> rfl

theorem symlinkMetadata_keeps (path : Path) : (symlinkMetadata path : LockerM σ Node).Keeps World.ground :=
  (syscall_keeps _ _).bind fun _ => entry_keeps _

theorem metadata_keeps (path : Path) : (metadata path : LockerM σ Node).Keeps World.ground :=
  (syscall_keeps _ _).bind fun _ => (followed_keeps _).bind fun _ => entry_keeps _

theorem openRead_keeps (path : Path) : (openRead path : LockerM σ Stream).Keeps World.ground := by
  refine (syscall_keeps _ _).bind fun _ => (followed_keeps _).bind fun _ => (entry_keeps _).bind fun node => ?_
  refine Fallible.Keeps.get.bind fun w => ?_
  cases node <;> exact Fallible.Keeps.pure _

theorem getrandom_keeps (n : Nat) : (getrandom n : LockerM σ (Block n)).Keeps World.ground := fun _ => rfl

theorem askPhone_keeps (x : Fallible σ LockerError α) : (askPhone x).Keeps World.ground := fun _ => rfl

theorem soleRegularFile_keeps (path : Path) (soleName : Bool) :
    (soleRegularFile path soleName : LockerM σ (UInt64 × Attributes)).Keeps World.ground := by
  refine (symlinkMetadata_keeps path).bind fun node => Fallible.Keeps.bind ?_ fun node => ?_
  · cases node with
    | symlink target => exact Fallible.Keeps.bind (Fallible.Keeps.require _ _) fun _ => metadata_keeps path
    | _ => exact Fallible.Keeps.pure _
  · cases node with
    | file => exact Fallible.Keeps.bind (Fallible.Keeps.require _ _) fun _ => Fallible.Keeps.pure _
    | _ => exact Fallible.Keeps.throw _

end Ground

section Scratch
variable {σ : Type} {disk : Disk} {files : Path → Option Node} {temporary : Path}

/-- The scratch file holds this content, and everything else is as it was. -/
def Scratch (disk : Disk) (files : Path → Option Node) (temporary : Path) (content : Bytes) (w : World σ) : Prop :=
  w.disk = disk ∧ ∃ attributes, w.files = Function.update files temporary (some (.file content attributes 1))

theorem Scratch.of_ground {content : Bytes} {w t : World σ} (scratch : Scratch disk files temporary content w)
    (ground : t.ground = w.ground) : Scratch disk files temporary content t := by
  have same : t.disk = w.disk := congrArg Prod.fst ground
  have seen : t.files = w.files := congrArg Prod.snd ground
  exact ⟨same.trans scratch.1, by rw [seen]; exact scratch.2⟩

theorem append_scratch {content bytes : Bytes} {w : World σ} (scratch : Scratch disk files temporary content w) :
    Scratch disk files temporary (content ++ bytes)
      ((append temporary bytes w : Except LockerError Unit × World σ).2) := by
  obtain ⟨same, attributes, holds⟩ := scratch
  have found : w.files temporary = some (.file content attributes 1) := by rw [holds, Function.update_self]
  refine ⟨?_, attributes, ?_⟩ <;> simp only [append, Fallible.modify_run, found]
  · exact same
  · rw [holds, Function.update_idem]

theorem writeAll_appends (bytes : Bytes) :
    (writeAll temporary bytes : LockerM σ Unit).Appends (Scratch disk files temporary) (fun _ more => more = bytes)
      fun _ => ¬disk.Faultless := by
  intro content w scratch
  have asked : Scratch disk files temporary content { w with clock := w.clock + 1 } := scratch
  unfold Fallible.Ends writeAll syscall
  rcases refused : w.disk.verdict w.clock .write temporary with _ | error
  · exact ⟨bytes, rfl, append_scratch asked⟩
  · refine ⟨?_, _, append_scratch asked⟩
    intro faultless
    rw [← scratch.1] at faultless
    rw [faultless] at refused
    cases refused

theorem removeAs_ends (kind : Syscall) (path : Path) (w : World σ) :
    (removeAs kind path : LockerM σ Unit).Ends
      (fun _ t => t.disk = w.disk ∧ w.disk.verdict w.clock kind path = none ∧
        t.files = Function.update w.files path none)
      (fun _ t => t.ground = w.ground ∧
        (w.disk.verdict w.clock kind path ≠ none ∨ w.files path = none ∨ w.files path = some .directory)) w := by
  unfold Fallible.Ends removeAs
  rw [Fallible.bind_run]
  unfold syscall
  rcases refused : w.disk.verdict w.clock kind path with _ | error
  · dsimp only
    unfold entry
    rw [Fallible.bind_run, Fallible.bind_run, Fallible.get_run]
    dsimp only
    rcases found : w.files path with _ | node
    · exact ⟨rfl, Or.inr (Or.inl rfl)⟩
    · by_cases directory : node = .directory
      · subst directory
        exact ⟨rfl, Or.inr (Or.inr rfl)⟩
      · simp [Fallible.pure_run, Fallible.bind_run, require, directory, setEntry, Fallible.modify_run]
  · exact ⟨rfl, Or.inl (by simp)⟩

theorem rename_ends (source target : Path) (w : World σ) :
    (rename source target : LockerM σ Unit).Ends
      (fun _ t => t.disk = w.disk ∧ t.clock = w.clock + 1 ∧ w.disk.verdict w.clock .rename source = none ∧
        ∃ node, w.files source = some node ∧
          t.files = Function.update (Function.update w.files source none) target (some node))
      (fun _ t => t.ground = w.ground ∧
        (w.disk.verdict w.clock .rename source ≠ none ∨ w.files source = none ∨
          w.disk.nameMax < target.name.length ∨ w.files target = some .directory)) w := by
  unfold Fallible.Ends rename
  rw [Fallible.bind_run]
  unfold syscall
  rcases refused : w.disk.verdict w.clock .rename source with _ | error
  · dsimp only
    unfold entry
    rw [Fallible.bind_run, Fallible.bind_run, Fallible.get_run]
    dsimp only
    rcases found : w.files source with _ | node
    · exact ⟨rfl, Or.inr (Or.inl rfl)⟩
    · by_cases long : target.name.length ≤ w.disk.nameMax
      · by_cases directory : w.files target = some .directory
        · simp [Fallible.pure_run, Fallible.bind_run, Fallible.get_run, Fallible.throw_run, require, directory, long,
            World.ground]
        · simp [Fallible.pure_run, Fallible.bind_run, Fallible.get_run, require, directory, long, setEntry,
            Fallible.modify_run]
      · simp [Fallible.pure_run, Fallible.bind_run, Fallible.get_run, Fallible.throw_run, require, long, World.ground,
          Nat.lt_of_not_le long]
  · exact ⟨rfl, Or.inl (by simp)⟩

/-- Dropping a scratch file takes it away again, or leaves it where the platform refuses that. -/
theorem discard_scratch {content : Bytes} {w : World σ} (vacant : files temporary = none)
    (scratch : Scratch disk files temporary content w) :
    ((ignoring (removeAs .discard temporary) w).2).disk = disk ∧
      (((ignoring (removeAs .discard temporary) w).2).files = files ∨
        ¬disk.Tidy ∧ Scratch disk files temporary content (ignoring (removeAs .discard temporary) w).2) := by
  have there := scratch
  obtain ⟨rfl, attributes, holds⟩ := scratch
  have ends := removeAs_ends .discard temporary w
  unfold Fallible.Ends at ends
  unfold ignoring
  rcases run : removeAs .discard temporary w with ⟨error | _, t⟩ <;> rw [run] at ends <;> dsimp only at ends ⊢
  · obtain ⟨same, why⟩ := ends
    simp only [World.ground, Prod.mk.injEq] at same
    refine ⟨same.1, Or.inr ⟨fun tidy => ?_, same.1, attributes, by rw [same.2, holds]⟩⟩
    rw [tidy, holds, Function.update_self] at why
    simp at why
  · obtain ⟨same, _, removed⟩ := ends
    have back : t.files = files := by
      rw [removed, holds, Function.update_idem, ← vacant, Function.update_eq_self]
    exact ⟨same, Or.inl back⟩

theorem toHex_length (bytes : Bytes) : (toHex bytes).length = 2 * bytes.length := by
  induction bytes with
  | nil => rfl
  | cons byte rest ih =>
    rw [toHex, List.flatMap_cons, List.length_append]
    rw [toHex] at ih
    rw [ih, List.length_cons]
    simp only [List.length_cons, List.length_nil]
    omega

theorem scratchPath_length (directory : List Bytes) (name : String) (suffix : Block 8) :
    (scratchPath directory name suffix).name.length = (utf8 name).length + 29 := by
  have dot : (utf8 ".").length = 1 := by decide +kernel
  have ending : (utf8 ".balock-tmp").length = 11 := by decide +kernel
  simp only [scratchPath, List.length_append, toHex_length, suffix.property, dot, ending]
  omega

/-- Why a file could not be built and published at a path. -/
def Blocked (disk : Disk) (files : Path → Option Node) (destination : Path) : Prop :=
  ¬disk.Faultless ∨ files destination ≠ none ∨ destination.fileName = none ∨
    disk.nameMax < destination.name.length + 29 ∨
    ∃ name suffix, files (scratchPath destination.directory name suffix) ≠ none

/-- A scratch file for this destination has just been created. -/
structure Created (w : World σ) (target : AtomicFile) (t : World σ) : Prop where
  vacant : w.files target.destination = none
  fresh : w.files target.temporary = none
  long : target.temporary.name.length = target.destination.name.length + 29
  fits : target.destination.name.length + 29 ≤ w.disk.nameMax
  scratch : Scratch w.disk w.files target.temporary [] t

theorem occupied_run (path : Path) (w : World σ) :
    (occupied path : LockerM σ Bool) w = (.ok (w.files path).isSome, w) := rfl

theorem createNew_ends (path : Path) (w : World σ) :
    (createNew path : LockerM σ Unit).Ends
      (fun _ t => w.files path = none ∧ path.name.length ≤ w.disk.nameMax ∧ Scratch w.disk w.files path [] t)
      (fun _ t => t.ground = w.ground ∧
        (¬w.disk.Faultless ∨ w.files path ≠ none ∨ w.disk.nameMax < path.name.length)) w := by
  unfold Fallible.Ends createNew
  rw [Fallible.bind_run]
  unfold syscall
  rcases refused : w.disk.verdict w.clock .create path with _ | error
  · by_cases long : path.name.length ≤ w.disk.nameMax
    · by_cases vacant : w.files path = none
      · simp only [Fallible.bind_run, Fallible.get_run, Fallible.pure_run, require, long, vacant, setEntry,
          Fallible.modify_run, if_true]
        exact ⟨trivial, trivial, rfl, _, rfl⟩
      · simp [Fallible.bind_run, Fallible.get_run, Fallible.pure_run, Fallible.throw_run, require, long, vacant,
          World.ground]
    · simp [Fallible.bind_run, Fallible.get_run, Fallible.throw_run, require, long, World.ground,
        Nat.lt_of_not_le long]
  · refine ⟨rfl, Or.inl fun faultless => ?_⟩
    rw [faultless] at refused
    cases refused

theorem temporarySibling_ends (destination : Path) (w : World σ) :
    (temporarySibling destination : LockerM σ Path).Ends
      (fun temporary t => t.ground = w.ground ∧ ∃ name suffix, destination.fileName = some name ∧
        temporary = scratchPath destination.directory name suffix)
      (fun _ t => t.ground = w.ground ∧ destination.fileName = none) w := by
  unfold temporarySibling
  rcases named : destination.fileName with _ | name
  · exact ⟨rfl, rfl⟩
  · exact ⟨rfl, name, _, rfl, rfl⟩

theorem create_ends (destination : Path) (w : World σ) :
    (AtomicFile.create destination : LockerM σ AtomicFile).Ends
      (fun target t => target.destination = destination ∧ Created w target t)
      (fun _ t => t.ground = w.ground ∧ Blocked w.disk w.files destination) w := by
  unfold AtomicFile.create
  refine Fallible.Ends.bind (fun taken t => taken = (w.files destination).isSome ∧ w = t) ⟨rfl, rfl⟩ ?_
  rintro _ _ ⟨rfl, rfl⟩
  refine Fallible.Ends.bind (fun _ t => w = t ∧ w.files destination = none)
    (Fallible.ends_require (fun free => ⟨rfl, by simpa using free⟩) fun taken =>
      ⟨rfl, Or.inr (Or.inl (by simpa [Option.isSome_iff_ne_none] using taken))⟩) ?_
  rintro _ _ ⟨rfl, vacant⟩
  refine Fallible.Ends.bind _ ((temporarySibling_ends destination w).mono (fun _ _ done => done) ?_) ?_
  · rintro _ t ⟨same, unnamed⟩
    exact ⟨same, Or.inr (Or.inr (Or.inl unnamed))⟩
  · rintro _ t ⟨same, name, suffix, named, rfl⟩
    have spelled : destination.name = utf8 name := fromUtf8_eq_some.mp named
    have length := scratchPath_length destination.directory name suffix
    rw [← spelled] at length
    have disk : t.disk = w.disk := congrArg Prod.fst same
    have files : t.files = w.files := congrArg Prod.snd same
    have created := createNew_ends (scratchPath destination.directory name suffix) t
    rw [files, disk, same] at created
    refine Fallible.Ends.bind _ (created.mono (fun _ _ done => done) ?_) ?_
    · rintro _ u ⟨ground, why | why | why⟩
      · exact ⟨ground, Or.inl why⟩
      · exact ⟨ground, Or.inr (Or.inr (Or.inr (Or.inr ⟨name, suffix, why⟩)))⟩
      · exact ⟨ground, Or.inr (Or.inr (Or.inr (Or.inl (by rwa [← length]))))⟩
    · rintro _ u ⟨fresh, fits, scratch⟩
      exact ⟨rfl, vacant, fresh, length, by rwa [← length], scratch⟩

/-- From a finished scratch file, a commit either publishes it or leaves it as it is. -/
theorem commit_ends {w t : World σ} {target : AtomicFile} {content : Bytes} (created : Created w target t)
    {u : World σ} (scratch : Scratch w.disk w.files target.temporary content u) :
    (target.commit : LockerM σ Unit).Ends
      (fun _ v => v.disk = w.disk ∧ ∃ attributes,
        v.files = Function.update w.files target.destination (some (.file content attributes 1)))
      (fun _ v => Scratch w.disk w.files target.temporary content v ∧ ¬w.disk.Faultless) u := by
  obtain ⟨vacant, fresh, long, fits, _⟩ := created
  have apart : target.destination ≠ target.temporary := by
    intro same
    rw [← same] at long
    omega
  unfold AtomicFile.commit
  refine Fallible.Ends.bind (fun _ v => Scratch w.disk w.files target.temporary content v) ?_ ?_
  · unfold Fallible.Ends syncAll syscall
    rcases refused : u.disk.verdict u.clock .sync target.temporary with _ | error
    · exact scratch
    · refine ⟨scratch, fun faultless => ?_⟩
      rw [scratch.1, faultless] at refused
      cases refused
  · rintro _ v ⟨disk, attributes, holds⟩
    have free : v.files target.destination = none := by rw [holds, Function.update_of_ne apart, vacant]
    refine Fallible.Ends.bind (fun taken x => taken = false ∧ v = x) ⟨by rw [free]; rfl, rfl⟩ ?_
    rintro _ _ ⟨rfl, rfl⟩
    refine Fallible.Ends.bind (fun _ x => v = x) (Fallible.ends_require (fun _ => rfl) fun taken => absurd rfl taken) ?_
    rintro _ _ rfl
    refine Fallible.Ends.bind _ ((rename_ends target.temporary target.destination v).mono (fun _ _ done => done) ?_) ?_
    · rintro _ x ⟨same, why⟩
      simp only [World.ground, Prod.mk.injEq] at same
      refine ⟨⟨same.1.trans disk, attributes, same.2.trans holds⟩, fun faultless => ?_⟩
      rw [disk, faultless, holds, Function.update_self, Function.update_of_ne apart, vacant] at why
      simp at why
      omega
    · rintro _ x ⟨same, _, _, node, found, moved⟩
      rw [holds, Function.update_self] at found
      refine ⟨same.trans disk, attributes, ?_⟩
      rw [moved, holds, Function.update_idem, ← fresh, Function.update_eq_self, ← found]

/-- Nothing has changed, or, where the platform refuses even to remove a scratch file, only that one is left. -/
def Untouched (w t : World σ) : Prop :=
  t.files = w.files ∨
    ¬w.disk.Tidy ∧ ∃ temporary content, w.files temporary = none ∧ Scratch w.disk w.files temporary content t

theorem Untouched.extends {w t : World σ} (untouched : Untouched w t) : Extends w.files t.files := by
  rcases untouched with same | ⟨_, temporary, content, vacant, _, attributes, holds⟩
  · rw [same]
    exact Extends.refl _
  · rw [holds]
    exact Extends.update vacant _

/-- A file has been published where there was none. -/
def Published (w : World σ) (destination : Path) (holds : Bytes → Prop) (files : Path → Option Node) : Prop :=
  w.files destination = none ∧ destination.name.length + 29 ≤ w.disk.nameMax ∧
    ∃ content attributes, holds content ∧
      files = Function.update w.files destination (some (.file content attributes 1))

theorem Published.extends {w : World σ} {destination : Path} {holds : Bytes → Prop} {files : Path → Option Node}
    (published : Published w destination holds files) : Extends w.files files := by
  obtain ⟨vacant, _, content, attributes, _, rfl⟩ := published
  exact Extends.update vacant _

/-- Publishing a file adds it at its destination with everything that was built, or changes nothing. -/
theorem publish_ends (destination : Path) (build : Path → LockerM σ Unit) {wrote : Bytes → Prop}
    {fails : LockerError → Prop} (w : World σ)
    (builds : ∀ temporary, w.files temporary = none →
      (build temporary).Appends (Scratch w.disk w.files temporary) (fun _ more => wrote more) fails) :
    (AtomicFile.publish destination build).Ends
      (fun _ t => t.disk = w.disk ∧ Published w destination wrote t.files)
      (fun e t => t.disk = w.disk ∧ Untouched w t ∧ (fails e ∨ Blocked w.disk w.files destination)) w := by
  unfold AtomicFile.publish
  refine Fallible.Ends.bind _ ((create_ends destination w).mono (fun _ _ done => done) ?_) ?_
  · rintro _ t ⟨same, why⟩
    simp only [World.ground, Prod.mk.injEq] at same
    exact ⟨same.1, Or.inl same.2, Or.inr why⟩
  · rintro target t ⟨rfl, created⟩
    have work : ((do build target.temporary; target.commit) : LockerM σ Unit).Ends
        (fun _ v => v.disk = w.disk ∧ ∃ content attributes, wrote content ∧
          v.files = Function.update w.files target.destination (some (.file content attributes 1)))
        (fun e v => (∃ content, Scratch w.disk w.files target.temporary content v) ∧ (fails e ∨ ¬w.disk.Faultless)) t := by
      refine Fallible.Ends.bind _ ((builds target.temporary created.fresh [] t created.scratch).mono (fun _ _ done => done) ?_) ?_
      · rintro e u ⟨failed, more, scratch⟩
        exact ⟨⟨_, scratch⟩, Or.inl failed⟩
      · rintro _ u ⟨more, written, scratch⟩
        refine (commit_ends created scratch).mono ?_ ?_
        · rintro _ v ⟨disk, attributes, published⟩
          exact ⟨disk, _, attributes, written, published⟩
        · rintro e v ⟨after, refused⟩
          exact ⟨⟨_, after⟩, Or.inr refused⟩
    unfold Fallible.Ends AtomicFile.guarding
    unfold Fallible.Ends at work
    rcases run : (do build target.temporary; target.commit : LockerM σ Unit) t with ⟨error | _, u⟩ <;>
      rw [run] at work <;> dsimp only at work ⊢
    · obtain ⟨⟨content, scratch⟩, why⟩ := work
      obtain ⟨disk, left⟩ := discard_scratch created.fresh scratch
      refine ⟨disk, left.imp_right fun kept => ?_, why.imp_right Or.inl⟩
      exact ⟨kept.1, target.temporary, content, created.fresh, kept.2⟩
    · obtain ⟨disk, content, attributes, written, published⟩ := work
      exact ⟨disk, created.vacant, created.fits, content, attributes, written, published⟩

end Scratch

section Reading
variable {σ : Type}

/-- What reading an open file yields is what the file held when it was opened. -/
def Disk.Honest (disk : Disk) : Prop := ∀ n path content, disk.reads n path content = ⟨content, none⟩

/-- What a path leads to, when that is a regular file. -/
def contentAt (files : Path → Option Node) (path : Path) : Option Bytes :=
  match (resolve files (maxLinks + 1) path).bind files with
  | some (.file content _ _) => some content
  | _ => none

theorem contentAt_eq_some {files : Path → Option Node} {path : Path} {content : Bytes} :
    contentAt files path = some content ↔ ∃ target attributes links,
      resolve files (maxLinks + 1) path = some target ∧ files target = some (.file content attributes links) := by
  unfold contentAt
  rcases resolve files (maxLinks + 1) path with _ | target
  · simp
  · rcases found : files target with _ | node
    · simp [found]
    · cases node <;> simp [found]

theorem contentAt_file {files : Path → Option Node} {path : Path} {content : Bytes} {attributes : Attributes}
    {links : Nat} (found : files path = some (.file content attributes links)) : contentAt files path = some content :=
  contentAt_eq_some.mpr ⟨path, attributes, links, by simp [resolve, found], found⟩

theorem resolve_extends {before after : Path → Option Node} (grows : Extends before after) {fuel : Nat}
    {path target : Path} {node : Node} (leads : resolve before fuel path = some target)
    (found : before target = some node) : resolve after fuel path = some target := by
  induction fuel generalizing path with
  | zero => cases leads
  | succ fuel ih =>
    unfold resolve at leads ⊢
    rcases there : before path with _ | entry <;> rw [there] at leads
    · cases leads
      rw [found] at there
      cases there
    · rw [grows _ _ there]
      cases entry with
      | symlink next => exact ih leads
      | _ => exact leads

theorem soleRegularFile_file {path : Path} {w t : World σ} {described : UInt64 × Attributes}
    (run : soleRegularFile path true w = (.ok described, t)) :
    ∃ content attributes links, w.files path = some (.file content attributes links) := by
  obtain ⟨node, u, looked, run⟩ := Fallible.bind_eq_ok.mp run
  obtain ⟨_, v, asked, found⟩ := Fallible.bind_eq_ok.mp looked
  have same := (syscall_keeps _ _).of_run asked
  simp only [World.ground, Prod.mk.injEq] at same
  have there : w.files path = some node := by
    rw [← same.2]
    rw [entry, Fallible.bind_run_ok _ (Fallible.get_run v)] at found
    rcases held : v.files path with _ | other <;> rw [held] at found
    · cases found
    · cases found
      rfl
  cases node with
  | file content attributes links => exact ⟨content, attributes, links, there⟩
  | directory => cases run
  | special => cases run
  | symlink target => cases run

/-- New entries do not change what an old path leads to. -/
theorem contentAt_extends {before after : Path → Option Node} (grows : Extends before after) {path : Path}
    {content : Bytes} (held : contentAt before path = some content) : contentAt after path = some content := by
  obtain ⟨target, attributes, links, leads, found⟩ := contentAt_eq_some.mp held
  exact contentAt_eq_some.mpr ⟨target, attributes, links, resolve_extends grows leads found, grows _ _ found⟩

theorem openRead_honest {path : Path} {w t : World σ} {reader : Stream} {content : Bytes} (honest : w.disk.Honest)
    (held : contentAt w.files path = some content) (run : openRead path w = (.ok reader, t)) :
    reader = ⟨content, none⟩ := by
  obtain ⟨target, attributes, links, leads, found⟩ := contentAt_eq_some.mp held
  rcases refused : w.disk.verdict w.clock .openRead path with _ | error
  · simp only [openRead, syscall, followed, entry, Fallible.bind_run, Fallible.get_run, Fallible.pure_run, refused, leads,
      found, honest _ _ _, Prod.mk.injEq, Except.ok.injEq] at run
    exact run.1.symm
  · simp [openRead, syscall, Fallible.bind_run, refused] at run

theorem scratch_of_keeps {α : Type} {x : LockerM σ α} (keeps : x.Keeps World.ground) {disk : Disk}
    {files : Path → Option Node} {temporary : Path} (wrote : α → Bytes → Prop)
    (good : ∀ content w a t, Scratch disk files temporary content w → x w = (.ok a, t) → wrote a []) :
    x.Appends (Scratch disk files temporary) wrote fun _ => True := by
  intro content w scratch
  refine (keeps.ends w).mono ?_ ?_
  · intro a t kept
    exact ⟨[], good content w a t scratch kept.1, by rw [List.append_nil]; exact scratch.of_ground kept.2⟩
  · intro _ t kept
    exact ⟨trivial, [], by rw [List.append_nil]; exact scratch.of_ground kept.2⟩

theorem writeSection_appends {holds : Bytes → World σ → Prop} {fails : LockerError → Prop}
    {write : Bytes → LockerM σ Unit} (any : ∀ e, fails e)
    (writes : ∀ bytes, (write bytes).Appends holds (fun _ more => more = bytes) fails) (content : Bytes) :
    (writeSection write content).Appends holds (fun _ more => more = spellSection content) fails := by
  refine Fallible.Appends.bind (Fallible.Appends.require (fun _ more => more = []) (fun _ => rfl) fun _ => any _) ?_
  rintro _ _ rfl
  refine Fallible.Appends.bind (writes _) ?_
  rintro _ _ rfl
  refine (writes content).mono ?_
  rintro _ _ rfl
  rfl

theorem writeFront_appends {holds : Bytes → World σ → Prop} {fails : LockerError → Prop}
    {write : Bytes → LockerM σ Unit} (any : ∀ e, fails e)
    (writes : ∀ bytes, (write bytes).Appends holds (fun _ more => more = bytes) fails) (core : Bytes)
    (wrappers : List Wrapper) (metadata : Bytes) :
    (writeFront write core wrappers metadata).Appends holds
      (fun _ more => encodeWrappers wrappers = .ok (spellWrappers wrappers) ∧
        more = magic ++ spellSection core ++ spellSection (spellWrappers wrappers) ++ spellSection metadata) fails := by
  refine Fallible.Appends.bind (writes magic) ?_
  rintro _ _ rfl
  refine Fallible.Appends.bind (writeSection_appends any writes core) ?_
  rintro _ _ rfl
  refine Fallible.Appends.bind (Fallible.Appends.liftM (fun encoded more => more = [] ∧
    encodeWrappers wrappers = .ok encoded) (fun _ encoded => ⟨rfl, encoded⟩) fun _ _ => any _) ?_
  rintro _ _ ⟨rfl, written⟩
  obtain ⟨_, _, _, rfl⟩ := encodeWrappers_eq_ok.mp written
  refine Fallible.Appends.bind (writeSection_appends any writes _) ?_
  rintro _ _ rfl
  refine (writeSection_appends any writes metadata).mono ?_
  rintro _ _ rfl
  exact ⟨written, by simp only [List.append_assoc, List.nil_append]⟩

end Reading

section Leaves
variable {σ : Type}

theorem Untouched.of_ground {w t : World σ} (same : t.ground = w.ground) : t.disk = w.disk ∧ Untouched w t := by
  simp only [World.ground, Prod.mk.injEq] at same
  exact ⟨same.1, Or.inl same.2⟩

theorem Untouched.of_start {w t u : World σ} (same : t.ground = w.ground) (untouched : Untouched t u) :
    Untouched w u := by
  simp only [World.ground, Prod.mk.injEq] at same
  unfold Untouched at untouched ⊢
  rwa [same.1, same.2] at untouched

theorem Published.of_start {w t : World σ} (same : t.ground = w.ground) {destination : Path} {holds : Bytes → Prop}
    {files : Path → Option Node} (published : Published t destination holds files) :
    Published w destination holds files := by
  simp only [World.ground, Prod.mk.injEq] at same
  unfold Published at published ⊢
  rwa [same.1, same.2] at published

/-- The step fails this way in a world which holds these files. -/
def FailsIn {α : Type} (x : LockerM σ α) (e : LockerError) (t : World σ) : Prop :=
  ∃ w : World σ, w.ground = t.ground ∧ x w = (.error e, t)

theorem removeWhen_ends (asked : Bool) (path : Path) (w : World σ) :
    (removeWhen asked path : LockerM σ Unit).Ends
      (fun _ t => t.disk = w.disk ∧ t.files = if asked then Function.update w.files path none else w.files)
      (fun _ t => t.ground = w.ground ∧ asked = true ∧ (w.disk.verdict w.clock .remove path ≠ none ∨
        w.files path = none ∨ w.files path = some .directory)) w := by
  cases asked with
  | false => exact ⟨rfl, rfl⟩
  | true =>
    have ends : (removeWhen true path : LockerM σ Unit).Ends _ _ w := removeAs_ends .remove path w
    exact ends.mono (fun _ _ done => ⟨done.1, done.2.2⟩) fun _ _ failed => ⟨failed.1, rfl, failed.2⟩

theorem changeAttributes_ends (asked : Bool) (path : Path) (change : Attributes → Attributes) (w : World σ)
    {content : Bytes} {attributes : Attributes} {links : Nat} {files : Path → Option Node}
    (holds : w.files = Function.update files path (some (.file content attributes links))) :
    (changeAttributes asked path change : LockerM σ Unit).Ends
      (fun _ t => t.disk = w.disk ∧ ∃ attributes, t.files = Function.update files path (some (.file content attributes links)))
      (fun _ _ => False) w := by
  have found : w.files path = some (.file content attributes links) := by rw [holds, Function.update_self]
  cases asked with
  | false => exact ⟨rfl, attributes, holds⟩
  | true =>
    change ((setAttributes path change w).2).disk = w.disk ∧
      ∃ attributes, ((setAttributes path change w).2).files =
        Function.update files path (some (.file content attributes links))
    rw [setAttributes, Fallible.bind_run]
    unfold syscall
    rcases refused : w.disk.verdict w.clock .setAttributes path with _ | error
    · simp only [Fallible.modify_run, found]
      exact ⟨trivial, change attributes, by rw [holds, Function.update_idem]⟩
    · exact ⟨rfl, attributes, holds⟩

theorem restoreAttributes_ends (path : Path) (metadata : Metadata) (w : World σ) {content : Bytes}
    {attributes : Attributes} {links : Nat} {files : Path → Option Node}
    (holds : w.files = Function.update files path (some (.file content attributes links))) :
    (restoreAttributes path metadata : LockerM σ Unit).Ends
      (fun _ t => t.disk = w.disk ∧ ∃ attributes, t.files = Function.update files path (some (.file content attributes links)))
      (fun _ _ => False) w := by
  refine Fallible.Ends.bind _ (changeAttributes_ends _ path _ w holds) ?_
  intro _ t changed
  obtain ⟨disk, attributes, holds⟩ := changed
  refine (changeAttributes_ends _ path _ t holds).mono ?_ fun _ _ never => never
  intro _ u changed
  exact ⟨changed.1.trans disk, changed.2⟩

end Leaves

end BioAuth.Locker
