import BioAuth.Desktop.SecureUpdater
import Mathlib.Order.Basic

namespace BioAuth.Desktop
open BioAuth

namespace Call

/-- What a target has been found to be once it is verified, and what its check relies on from before. -/
def targetVouchers (target : Target) (verified : Bool) : List Voucher :=
  match target.stage with
  | .pending => if verified then [target.ready.voucher] else []
  | .rollback ready => [ready.voucher]

def passes (voucher : Voucher) : Answer → Bool
  | .given signature => voucher.sameSigner signature
  | _ => false

/-- The files that a call relies on, and will not have verified again: a check on the update it will announce, an
install on the installer that is ready, unless that is the one it has yet to verify, and a rollback on its installer. -/
def relied (ready : Option Ready) : Call → List Voucher
  | checkDownload target _ => targetVouchers target false
  | checkVerify target answer => targetVouchers target (passes target.ready.voucher answer)
  | checkVerified target => targetVouchers target true
  | checkCurrent update => [update.voucher]
  | installVerify verifying answer =>
    match answer with
    | .waiting => if ready = some verifying then [] else ready.toList.map Ready.voucher
    | _ => if passes verifying.voucher answer then ready.toList.map Ready.voucher else []
  | installVerified => ready.toList.map Ready.voucher
  | infoVerify voucher launches answer => if launches ∧ passes voucher answer then [voucher] else []
  | infoVerified voucher launches => if launches then [voucher] else []
  | rollbackVerified voucher => [voucher]
  | _ => []

end Call

/-- What `atomicJson` writes as far as it gets. -/
def Stored.names : Stored → List String
  | .nothing => []
  | .temporary => ["rollback.json.tmp"]
  | .all => ["rollback.json.tmp", "rollback.json"]

namespace SecureUpdater
variable {File Content : Type} [DecidableEq File] {setup : Installation File Content}
  {updater : SecureUpdater File Content}

/-- The files that an event writes. -/
def written (updater : SecureUpdater File Content) : Event Content → List String
  | .part place _ =>
    match updater.calls[place]? with
    | some (.checkDownload target false) => [target.ready.installer ++ ".part"]
    | _ => []
  | .land place _ =>
    match updater.calls[place]? with
    | some (.checkDownload target false) => [target.ready.installer]
    | _ => []
  | .resume place stored =>
    match updater.calls[place]? with
    | some (.checkVerified ⟨_, _, .rollback _⟩) => stored.names
    | _ => []
  | _ => []

/-- No call relies on a file that the event writes. -/
def Apart (setup : Installation File Content) (updater : SecureUpdater File Content) (event : Event Content) : Prop :=
  ∀ name ∈ updater.written event, ∀ call ∈ updater.calls, ∀ voucher ∈ call.relied updater.ready,
    setup.resolve voucher.name ≠ setup.resolve name

instance (setup : Installation File Content) (updater : SecureUpdater File Content) (event : Event Content) :
    Decidable (updater.Apart setup event) :=
  inferInstanceAs (Decidable (∀ name ∈ updater.written event, ∀ call ∈ updater.calls,
    ∀ voucher ∈ call.relied updater.ready, setup.resolve voucher.name ≠ setup.resolve name))

/-- Before each step no call relies on a file that the step writes. -/
def Calm (setup : Installation File Content) : SecureUpdater File Content → List (Event Content) → Prop
  | _, [] => True
  | updater, event :: events => updater.Apart setup event ∧ Calm setup (updater.step setup event) events

instance decidableCalm (setup : Installation File Content) : (updater : SecureUpdater File Content) →
    (events : List (Event Content)) → Decidable (Calm setup updater events)
  | _, [] => .isTrue trivial
  | updater, event :: events =>
    have := decidableCalm setup (updater.step setup event) events
    inferInstanceAs (Decidable (updater.Apart setup event ∧ Calm setup (updater.step setup event) events))

/-- The last answer on a file was given on what is there since it was written last, and says what it must. -/
def Vouched (setup : Installation File Content) (updater : SecureUpdater File Content) (voucher : Voucher) : Prop :=
  ∃ signature, updater.verified (setup.resolve voucher.name) =
    some (updater.writes (setup.resolve voucher.name), signature) ∧ voucher.sameSigner signature

/-- The key is the one that the installed build is signed with. -/
def OwnKey (setup : Installation File Content) (publicKey : Option String) : Prop :=
  ∃ signature, setup.verify setup.currentExecutable = some signature ∧ signature.valid ∧ signature.publicKey = publicKey

/-- What may be launched: a newer version, or to roll back an older one, by the same signer. -/
def Admissible (setup : Installation File Content) (rollback : Bool) (voucher : Voucher) : Prop :=
  OwnKey setup voucher.publicKey ∧ ∀ version ∈ voucher.version,
    compareVersions version setup.currentVersion = some (if rollback then .lt else .gt)

/-- What a call carries, whatever the files are. -/
def Carries (setup : Installation File Content) : Call → Prop
  | .checkInstalled (.given signature) => setup.verify setup.currentExecutable = some signature
  | .checkLatest publicKey => OwnKey setup publicKey
  | .checkDownload target _ | .checkVerify target _ | .checkVerified target =>
    match target.stage with
    | .pending => Admissible setup false target.ready.voucher
    | .rollback ready => Admissible setup false ready.voucher
  | .checkCurrent ready => Admissible setup false ready.voucher
  | .infoInstalled voucher _ answer => (∀ version ∈ voucher.version,
      compareVersions version setup.currentVersion = some .lt) ∧
      ∀ signature, answer = .given signature → setup.verify setup.currentExecutable = some signature
  | .infoVerify voucher _ _ | .infoVerified voucher _ | .rollbackVerified voucher => Admissible setup true voucher
  | _ => True

/-- What is launched may be, and the file has been found to be what it must since it was written last. -/
def Launch.Sound (setup : Installation File Content) (launch : Launch) : Prop :=
  Admissible setup launch.rollback launch.voucher ∧
    ∃ signature, launch.verified = some (launch.written, signature) ∧ launch.voucher.sameSigner signature

structure Sound (setup : Installation File Content) (updater : SecureUpdater File Content) : Prop where
  counted : ∀ file count signature, updater.verified file = some (count, signature) → count ≤ updater.writes file
  content : ∀ file signature content, updater.verified file = some (updater.writes file, signature) →
    updater.files file = some content → setup.verify content = some signature
  ready : ∀ ready ∈ updater.ready, Admissible setup false ready.voucher
  carries : ∀ call ∈ updater.calls, Carries setup call
  relied : ∀ call ∈ updater.calls, ∀ voucher ∈ call.relied updater.ready, updater.Vouched setup voucher
  launched : ∀ launch ∈ updater.launched, Launch.Sound setup launch

section Parts

omit [DecidableEq File] in
theorem Sound.withCalls (sound : updater.Sound setup) {calls : List Call} (carries : ∀ call ∈ calls, Carries setup call)
    (relied : ∀ call ∈ calls, ∀ voucher ∈ call.relied updater.ready, updater.Vouched setup voucher) :
    Sound setup { updater with calls } :=
  ⟨sound.counted, sound.content, sound.ready, carries, relied, sound.launched⟩

omit [DecidableEq File] in
theorem Sound.await (sound : updater.Sound setup) {call : Call} (carries : Carries setup call)
    (relied : ∀ voucher ∈ call.relied updater.ready, updater.Vouched setup voucher) :
    (updater.await call).Sound setup := by
  refine sound.withCalls (fun other member => ?_) fun other member => ?_
  · rcases List.mem_append.mp member with earlier | last
    · exact sound.carries other earlier
    · exact List.mem_singleton.mp last ▸ carries
  · rcases List.mem_append.mp member with earlier | last
    · exact sound.relied other earlier
    · exact List.mem_singleton.mp last ▸ relied

omit [DecidableEq File] in
theorem Sound.goOn (sound : updater.Sound setup) (place : Nat) {call : Call} (carries : Carries setup call)
    (relied : ∀ voucher ∈ call.relied updater.ready, updater.Vouched setup voucher) :
    (updater.goOn place call).Sound setup := by
  refine sound.withCalls (fun other member => ?_) fun other member => ?_
  · rcases List.mem_or_eq_of_mem_set member with earlier | rfl
    · exact sound.carries other earlier
    · exact carries
  · rcases List.mem_or_eq_of_mem_set member with earlier | rfl
    · exact sound.relied other earlier
    · exact relied

omit [DecidableEq File] in
theorem Sound.done (sound : updater.Sound setup) (place : Nat) : (updater.done place).Sound setup :=
  sound.withCalls (fun call member => sound.carries call (List.mem_of_mem_eraseIdx member))
    fun call member => sound.relied call (List.mem_of_mem_eraseIdx member)

theorem write_writes_self (name : String) (content : Content) :
    (updater.write setup name content).writes (setup.resolve name) = updater.writes (setup.resolve name) + 1 :=
  Function.update_self _ _ _

theorem write_writes_of_ne {file : File} {name : String} (other : file ≠ setup.resolve name) (content : Content) :
    (updater.write setup name content).writes file = updater.writes file := Function.update_of_ne other _ _

theorem Vouched.write {voucher : Voucher} (vouched : updater.Vouched setup voucher) {name : String}
    (apart : setup.resolve voucher.name ≠ setup.resolve name) (content : Content) :
    (updater.write setup name content).Vouched setup voucher := by
  obtain ⟨signature, verified, passes⟩ := vouched
  refine ⟨signature, ?_, passes⟩
  rw [write_writes_of_ne apart]
  exact verified

/-- A write that no call relies on. -/
theorem Sound.write (sound : updater.Sound setup) {name : String} (apart : ∀ call ∈ updater.calls,
    ∀ voucher ∈ call.relied updater.ready, setup.resolve voucher.name ≠ setup.resolve name) (content : Content) :
    (updater.write setup name content).Sound setup where
  counted file count signature verified := by
    have before := sound.counted file count signature verified
    have grows : updater.writes file ≤ (updater.write setup name content).writes file := by
      by_cases same : file = setup.resolve name
      · rw [same, write_writes_self]
        exact Nat.le_succ _
      · exact Nat.le_of_eq (write_writes_of_ne same content).symm
    exact Nat.le_trans before grows
  content file signature found verified there := by
    by_cases same : file = setup.resolve name
    · -- the last answer is older than what is written now
      subst same
      have older := sound.counted _ _ signature verified
      rw [write_writes_self] at older
      exact absurd older (Nat.not_succ_le_self _)
    · rw [write_writes_of_ne same] at verified
      exact sound.content file signature found verified ((Function.update_of_ne same _ _).symm.trans there)
  ready := sound.ready
  carries := sound.carries
  relied call member voucher trusted :=
    (sound.relied call member voucher trusted).write (apart call member voucher trusted) content
  launched := sound.launched

theorem Sound.remove (sound : updater.Sound setup) (name : String) : (updater.remove setup name).Sound setup where
  counted := sound.counted
  content file signature found verified there := by
    by_cases same : file = setup.resolve name
    · subst same
      rw [show (updater.remove setup name).files (setup.resolve name) = none from Function.update_self _ _ _] at there
      cases there
    · exact sound.content file signature found verified ((Function.update_of_ne same _ _).symm.trans there)
  ready := sound.ready
  carries := sound.carries
  relied := sound.relied
  launched := sound.launched

/-- An answer says of a file what is there, and nothing else of what was said before. -/
theorem Sound.judge (sound : updater.Sound setup) (name : String) (succeeds : Bool) :
    (updater.judge setup name succeeds).2.Sound setup ∧
      ∀ voucher : Voucher, voucher.name = name → Call.passes voucher (updater.judge setup name succeeds).1 →
        (updater.judge setup name succeeds).2.Vouched setup voucher := by
  unfold SecureUpdater.judge
  split
  · exact ⟨sound, fun _ _ fails => absurd fails Bool.false_ne_true⟩
  · rename_i signature read
    obtain ⟨content, there, said⟩ : ∃ content, updater.files (setup.resolve name) = some content ∧
        setup.verify content = some signature := by
      split at read
      · exact Option.bind_eq_some_iff.mp read
      · cases read
    refine ⟨⟨fun file count other verified => ?_, fun file other found verified holds => ?_, sound.ready, sound.carries,
      fun call member voucher trusted => ?_, sound.launched⟩, fun voucher same passes => ?_⟩
    · by_cases same : file = setup.resolve name
      · subst same
        cases (Function.update_self _ _ _).symm.trans verified
        exact Nat.le_refl _
      · exact sound.counted file count other ((Function.update_of_ne same _ _).symm.trans verified)
    · by_cases same : file = setup.resolve name
      · subst same
        cases (Function.update_self _ _ _).symm.trans verified
        rw [← Option.some.inj (there.symm.trans holds)]
        exact said
      · exact sound.content file other found ((Function.update_of_ne same _ _).symm.trans verified) holds
    · obtain ⟨before, verified, passes⟩ := sound.relied call member voucher trusted
      by_cases same : setup.resolve voucher.name = setup.resolve name
      · -- the file has not been written since, so the answer is the same
        refine ⟨before, ?_, passes⟩
        have known := sound.content _ before content verified (same ▸ there)
        rw [Option.some.inj (known.symm.trans said), same]
        exact Function.update_self _ _ _
      · exact ⟨before, (Function.update_of_ne same _ _).trans verified, passes⟩
    · subst same
      exact ⟨signature, Function.update_self _ _ _, passes⟩

theorem relied_announce {old : Option Ready} {ready : Ready} {call : Call} {voucher : Voucher}
    (trusted : voucher ∈ call.relied (some ready)) : voucher ∈ call.relied old ∨ voucher = ready.voucher := by
  have here (voucher : Voucher) (trusted : voucher ∈ (some ready).toList.map Ready.voucher) : voucher = ready.voucher :=
    List.mem_singleton.mp trusted
  cases call with
  | installVerify verifying answer =>
    cases answer with
    | waiting =>
      simp only [Call.relied] at trusted
      split at trusted
      · cases trusted
      · exact Or.inr (here voucher trusted)
    | rejected => cases trusted
    | given signature =>
      simp only [Call.relied] at trusted
      split at trusted
      · exact Or.inr (here voucher trusted)
      · cases trusted
  | installVerified => exact Or.inr (here voucher trusted)
  | _ => exact Or.inl trusted

omit [DecidableEq File] in
/-- An update that is announced is what installs rely on from now on. -/
theorem Sound.announced (sound : updater.Sound setup) {ready : Ready}
    (admissible : Admissible setup false ready.voucher) (vouched : updater.Vouched setup ready.voucher) : Sound setup { updater with ready := some ready } where
  counted := sound.counted
  content := sound.content
  ready := by
    rintro _ ⟨⟩
    exact admissible
  carries := sound.carries
  relied call member voucher trusted := by
    rcases relied_announce trusted with before | rfl
    · exact sound.relied call member voucher before
    · exact vouched
  launched := sound.launched

omit [DecidableEq File] in
theorem Sound.launch (sound : updater.Sound setup) {rollback : Bool} {voucher : Voucher}
    (admissible : Admissible setup rollback voucher) (vouched : updater.Vouched setup voucher) :
    (updater.launch setup rollback voucher).Sound setup := by
  refine ⟨sound.counted, sound.content, sound.ready, sound.carries, sound.relied, fun launch member => ?_⟩
  rcases List.mem_append.mp member with earlier | last
  · exact sound.launched launch earlier
  · rw [List.mem_singleton.mp last]
    exact ⟨admissible, vouched⟩

/-- A file is verified, or deleted. -/
theorem Sound.settle (sound : updater.Sound setup) (place : Nat) {voucher : Voucher} {answer : Answer} {call : Call}
    (carries : Carries setup call) (relied : Call.passes voucher answer →
      ∀ other ∈ call.relied updater.ready, updater.Vouched setup other) :
    (updater.settle setup place voucher answer call).Sound setup := by
  cases answer with
  | waiting => exact sound
  | rejected => exact sound.done place
  | given signature =>
    rw [SecureUpdater.settle]
    split
    · rename_i passes
      exact sound.goOn place carries (relied passes)
    · exact (sound.remove voucher.name).done place

/-- Nothing of the update that is verified is relied on before its file is. -/
theorem Sound.download (sound : updater.Sound setup) (place : Nat) {target : Target}
    (carries : Carries setup (.checkVerified target))
    (relied : ∀ voucher ∈ Call.targetVouchers target false, updater.Vouched setup voucher) :
    (updater.download setup place target).Sound setup := by
  have first := sound.remove (target.ready.installer ++ ".part")
  unfold SecureUpdater.download
  dsimp only
  have second : ∀ wrong : Bool, Sound setup (if wrong then
      (updater.remove setup (target.ready.installer ++ ".part")).remove setup target.ready.installer
      else updater.remove setup (target.ready.installer ++ ".part")) ∧ ∀ voucher ∈ Call.targetVouchers target false,
        Vouched setup (if wrong then
          (updater.remove setup (target.ready.installer ++ ".part")).remove setup target.ready.installer
          else updater.remove setup (target.ready.installer ++ ".part")) voucher := by
    intro wrong
    cases wrong
    · exact ⟨first, relied⟩
    · exact ⟨first.remove _, relied⟩
  obtain ⟨kept, vouched⟩ := second ((updater.remove setup (target.ready.installer ++ ".part")).files
    (setup.resolve target.ready.installer) |>.any fun content => setup.size content ≠ target.size)
  split
  · exact kept.goOn place carries vouched
  · exact kept.goOn place carries vouched

end Parts

section Steps

omit [DecidableEq File] in
theorem judgeExecutable_given {succeeds : Bool} {signature : Authenticode}
    (given : judgeExecutable setup succeeds = .given signature) :
    setup.verify setup.currentExecutable = some signature := by
  unfold judgeExecutable at given
  split at given
  · cases given
  · rename_i said
    cases given
    split at said
    · exact said
    · cases said

theorem judge_calls (name : String) (succeeds : Bool) :
    (updater.judge setup name succeeds).2.calls = updater.calls := by
  unfold judge
  split <;> rfl

theorem mem_targetVouchers {target : Target} {verified : Bool} {voucher : Voucher}
    (trusted : voucher ∈ Call.targetVouchers target verified) :
    voucher ∈ Call.targetVouchers target false ∨ verified ∧ voucher = target.ready.voucher := by
  obtain ⟨ready, size, _ | earlier⟩ := target
  · cases verified
    · cases trusted
    · exact Or.inr ⟨rfl, List.mem_singleton.mp trusted⟩
  · exact Or.inl trusted

omit [DecidableEq File] in
/-- An install that is told of its installer relies on that, or on what it relied on before. -/
theorem mem_relied_install {ready : Option Ready} {verifying : Ready} {answer : Answer} {voucher : Voucher}
    (trusted : voucher ∈ Call.relied ready (.installVerify verifying answer)) :
    voucher ∈ Call.relied ready (.installVerify verifying .waiting) ∨
      Call.passes verifying.voucher answer ∧ voucher = verifying.voucher := by
  cases answer with
  | waiting => exact Or.inl trusted
  | rejected => cases trusted
  | given signature =>
    simp only [Call.relied] at trusted ⊢
    split at trusted
    · rename_i passes
      split
      · rename_i same
        rw [same] at trusted
        exact Or.inr ⟨passes, List.mem_singleton.mp trusted⟩
      · exact Or.inl trusted
    · cases trusted

omit [DecidableEq File] in
theorem mem_relied_info {ready : Option Ready} {voucher other : Voucher} {launches : Bool} {answer : Answer}
    (trusted : other ∈ Call.relied ready (.infoVerify voucher launches answer)) :
    (launches ∧ Call.passes voucher answer) ∧ other = voucher := by
  simp only [Call.relied] at trusted
  split at trusted
  · rename_i both
    exact ⟨both, List.mem_singleton.mp trusted⟩
  · cases trusted

/-- The verifier answers a call: what the call then relies on is what it has just been told, or what it relied on
before. -/
theorem Sound.answered (sound : updater.Sound setup) (place : Nat) (succeeds : Bool) {call : Call}
    (found : call ∈ updater.calls) : (updater.answered setup place succeeds call).Sound setup := by
  have carried := sound.carries call found
  have judged (name : String) := sound.judge name succeeds
  have calls (name : String) := @judge_calls _ _ _ setup updater name succeeds
  cases call with
  | checkInstalled answer =>
    cases answer with
    | waiting =>
      refine sound.goOn place ?_ fun _ none => (List.not_mem_nil none).elim
      rcases given : judgeExecutable setup succeeds with _ | _ | signature
      · trivial
      · trivial
      · exact judgeExecutable_given given
    | _ => exact sound
  | checkVerify target answer =>
    cases answer with
    | waiting =>
      obtain ⟨kept, vouched⟩ := judged target.ready.installer
      refine kept.goOn place carried fun voucher trusted => ?_
      rcases mem_targetVouchers trusted with before | ⟨passes, rfl⟩
      · exact kept.relied (.checkVerify target .waiting) (calls target.ready.installer ▸ found) voucher before
      · exact vouched _ rfl passes
    | _ => exact sound
  | installVerify ready answer =>
    cases answer with
    | waiting =>
      obtain ⟨kept, vouched⟩ := judged ready.installer
      refine kept.goOn place trivial fun voucher trusted => ?_
      rcases mem_relied_install trusted with before | ⟨passes, rfl⟩
      · exact kept.relied (.installVerify ready .waiting) (calls ready.installer ▸ found) voucher before
      · exact vouched _ rfl passes
    | _ => exact sound
  | infoInstalled voucher launches answer =>
    cases answer with
    | waiting =>
      exact sound.goOn place ⟨carried.1, fun signature given => judgeExecutable_given given⟩
        fun _ none => (List.not_mem_nil none).elim
    | _ => exact sound
  | infoVerify voucher launches answer =>
    cases answer with
    | waiting =>
      obtain ⟨kept, vouched⟩ := judged voucher.name
      refine kept.goOn place carried fun other trusted => ?_
      obtain ⟨⟨_, passes⟩, rfl⟩ := mem_relied_info trusted
      exact vouched _ rfl passes
    | _ => exact sound
  | _ => exact sound

theorem Sound.checkLatest (sound : updater.Sound setup) (place : Nat) {publicKey : Option String}
    (own : OwnKey setup publicKey) (release : Option Release) :
    (updater.checkLatest setup place publicKey release).Sound setup := by
  unfold SecureUpdater.checkLatest
  split
  · exact sound.done place
  rename_i latest
  split
  · rename_i newer
    split
    · exact sound.done place
    · rename_i asset size _
      have carries :
          Carries setup (.checkVerified ⟨⟨latest.latestVersion, asset.name, publicKey⟩, size, .pending⟩) := by
        refine ⟨own, ?_⟩
        rintro _ ⟨⟩
        exact newer
      exact sound.download place carries nofun
  · exact sound.done place

theorem Sound.checkCurrent (sound : updater.Sound setup) (place : Nat) {ready : Ready}
    (found : .checkCurrent ready ∈ updater.calls) (release : Option Release) :
    (updater.checkCurrent setup place ready release).Sound setup := by
  unfold SecureUpdater.checkCurrent
  split
  · exact sound.done place
  split
  · exact sound.done place
  · exact sound.download place (sound.carries (.checkCurrent ready) found) (sound.relied (.checkCurrent ready) found)

/-- The update that is announced is verified, and what is stored beside it is not. -/
theorem Sound.announce (sound : updater.Sound setup) {target : Target} {ready : Ready}
    (rollback : target.stage = .rollback ready) (found : .checkVerified target ∈ updater.calls) {stored : Stored}
    (apart : ∀ name ∈ stored.names, ∀ call ∈ updater.calls, ∀ voucher ∈ call.relied updater.ready,
      setup.resolve voucher.name ≠ setup.resolve name) :
    (updater.announce setup ready target.ready stored).Sound setup := by
  have trusted : ready.voucher ∈ Call.relied updater.ready (.checkVerified target) := by
    rw [Call.relied, Call.targetVouchers, rollback]
    exact List.mem_singleton_self _
  have admissible : Admissible setup false ready.voucher := by
    have carried := sound.carries _ found
    rw [Carries, rollback] at carried
    exact carried
  have announced := sound.announced admissible (sound.relied _ found _ trusted)
  have still (name : String) (member : name ∈ stored.names) : ∀ call ∈ updater.calls,
      ∀ voucher ∈ call.relied (some ready), setup.resolve voucher.name ≠ setup.resolve name := by
    intro call inside voucher relied
    rcases relied_announce relied with before | rfl
    · exact apart name member call inside voucher before
    · exact apart name member _ found _ trusted
  cases stored with
  | nothing => exact announced
  | temporary => exact announced.write (still _ (by decide)) _
  | all =>
    have first := (announced.write (still _ (by decide : "rollback.json.tmp" ∈ Stored.names .all))
      (setup.stringify ⟨target.ready.version, true, some target.ready.installer, target.ready.signerPublicKey⟩)).remove
        "rollback.json.tmp"
    exact first.write (still _ (by decide)) _

omit [DecidableEq File] in
theorem Sound.startRollback (sound : updater.Sound setup) (launches : Bool) :
    (updater.startRollback setup launches).Sound setup := by
  unfold SecureUpdater.startRollback
  split
  · exact sound
  split
  · exact sound
  split
  · rename_i metadata _ installer _ older
    refine sound.await ⟨fun version known => ?_, nofun⟩ fun _ none => (List.not_mem_nil none).elim
    split at known
    · cases known
      exact older
    · cases known
  · exact sound

/-- A call goes on behind its await: what it relies on has been verified, and what it launches is what it relies on. -/
theorem Sound.resume (sound : updater.Sound setup) {place : Nat} {stored : Stored} {call : Call}
    (found : updater.calls[place]? = some call) (apart : updater.Apart setup (.resume place stored)) :
    (updater.resume setup place stored call).Sound setup := by
  have member := List.mem_of_getElem? found
  have carried := sound.carries call member
  have relied := sound.relied call member
  cases call with
  | checkInstalled answer =>
    cases answer with
    | waiting => exact sound
    | rejected => exact sound.done place
    | given signature =>
      rw [SecureUpdater.resume]
      split
      · rename_i own
        have valid := (Bool.and_eq_true_iff.mp own.1).1
        exact sound.goOn place ⟨signature, carried, valid, rfl⟩ fun _ none => (List.not_mem_nil none).elim
      · exact sound.done place
  | checkLatest publicKey => exact sound
  | checkDownload target landed =>
    cases landed with
    | false => exact sound
    | true =>
      rw [SecureUpdater.resume]
      split
      · exact sound.done place
      split
      · exact sound.goOn place carried relied
      · exact (sound.remove _).done place
  | checkVerify target answer =>
    refine sound.settle place carried fun passes => ?_
    rw [Call.relied, passes] at relied
    exact relied
  | checkVerified target =>
    rw [SecureUpdater.resume]
    split
    · rename_i pending
      rw [Carries, pending] at carried
      rw [Call.relied, Call.targetVouchers, pending] at relied
      exact sound.goOn place carried relied
    · rename_i ready rollback
      refine (sound.announce rollback member fun name inside => apart name ?_).done place
      obtain ⟨update, size, stage⟩ := target
      cases rollback
      rw [written, found]
      exact inside
  | checkCurrent ready => exact sound
  | installVerify ready answer =>
    refine sound.settle place trivial fun passes voucher trusted => relied voucher ?_
    cases answer with
    | given signature =>
      simp only [Call.relied]
      rw [if_pos passes]
      exact trusted
    | _ => cases passes
  | installVerified =>
    rw [SecureUpdater.resume]
    split
    · exact sound.done place
    · rename_i ready announced
      refine (sound.launch (sound.ready ready announced) (relied _ ?_)).done place
      rw [Call.relied, announced]
      exact List.mem_singleton_self _
  | infoInstalled voucher launches answer =>
    cases answer with
    | waiting => exact sound
    | rejected => exact sound.done place
    | given signature =>
      rw [SecureUpdater.resume]
      split
      · rename_i own
        have valid := (Bool.and_eq_true_iff.mp own.1).1
        refine sound.goOn place ⟨⟨signature, carried.2 signature rfl, valid, own.2⟩, carried.1⟩ fun other trusted => ?_
        exact absurd (mem_relied_info trusted).1.2 Bool.false_ne_true
      · exact sound.done place
  | infoVerify voucher launches answer =>
    refine sound.settle place carried fun passes other trusted => relied other ?_
    simp only [Call.relied] at trusted ⊢
    split at trusted
    · rename_i launches
      rw [if_pos ⟨launches, passes⟩]
      exact trusted
    · cases trusted
  | infoVerified voucher launches =>
    cases launches with
    | false => exact sound.done place
    | true => exact sound.goOn place carried relied
  | rollbackVerified voucher => exact (sound.launch carried (relied voucher (List.mem_singleton_self _))).done place

theorem Sound.step (sound : updater.Sound setup) {event : Event Content} (apart : updater.Apart setup event) :
    (updater.step setup event).Sound setup := by
  cases event with
  | check =>
    rw [SecureUpdater.step]
    split
    · exact sound.await trivial nofun
    · exact sound
  | install =>
    rw [SecureUpdater.step]
    split
    · exact sound
    · rename_i ready there
      refine sound.await trivial fun voucher trusted => ?_
      rw [Call.relied, if_pos there] at trusted
      cases trusted
  | rollbackInfo launches =>
    rw [SecureUpdater.step]
    split
    · exact sound.startRollback launches
    · exact sound
  | answer place succeeds =>
    rw [SecureUpdater.step]
    split
    · rename_i call found
      exact sound.answered place succeeds (List.mem_of_getElem? found)
    · exact sound
  | metadata place release =>
    rw [SecureUpdater.step]
    split
    · rename_i publicKey found
      exact sound.checkLatest place (sound.carries _ (List.mem_of_getElem? found)) release
    · rename_i ready found
      exact sound.checkCurrent place (List.mem_of_getElem? found) release
    · exact sound
  | part place content =>
    rw [SecureUpdater.step]
    split
    · rename_i target found
      refine sound.write (apart _ ?_) content
      rw [written, found]
      exact List.mem_singleton_self _
    · exact sound
  | land place content =>
    rw [SecureUpdater.step]
    split
    · rename_i target found
      have member := List.mem_of_getElem? found
      have there : target.ready.installer ∈ updater.written (.land place content) := by
        rw [written, found]
        exact List.mem_singleton_self _
      have after := (sound.remove (target.ready.installer ++ ".part")).write (apart _ there) content
      exact after.goOn place (sound.carries (.checkDownload target false) member)
        (after.relied (.checkDownload target false) member)
    · exact sound
  | resume place stored =>
    rw [SecureUpdater.step]
    split
    · rename_i call found
      exact sound.resume found apart
    · exact sound
  | reject place => exact sound.done place

theorem Sound.run (sound : updater.Sound setup) {events : List (Event Content)} (calm : Calm setup updater events) :
    (updater.run setup events).Sound setup := by
  induction events generalizing updater with
  | nil => exact sound
  | cons event events ih => exact ih (sound.step calm.1) calm.2

omit [DecidableEq File] in
theorem Sound.initial (files : File → Option Content) : (initial files).Sound setup where
  counted _ _ _ := nofun
  content _ _ _ := nofun
  ready := nofun
  carries := nofun
  relied := nofun
  launched := nofun

end Steps

section Versions

theorem lt_of_compareNumbers {x y : List Nat} (less : compareNumbers x y = .lt) : x < y := by
  induction x generalizing y with
  | nil => cases less
  | cons a x ih =>
    cases y with
    | nil => cases less
    | cons b y =>
      rw [compareNumbers] at less
      split at less
      · split at less
        · rename_i below
          exact List.Lex.rel below
        · cases less
      · rename_i same
        rw [not_not.mp same]
        exact List.Lex.cons (ih less)

theorem gt_of_compareNumbers {x y : List Nat} (greater : compareNumbers x y = .gt) : y < x := by
  induction x generalizing y with
  | nil => cases greater
  | cons a x ih =>
    cases y with
    | nil => cases greater
    | cons b y =>
      rw [compareNumbers] at greater
      split at greater
      · rename_i apart
        split at greater
        · cases greater
        · rename_i above
          exact List.Lex.rel (Nat.lt_of_le_of_ne (Nat.not_lt.mp above) (Ne.symm apart))
      · rename_i same
        rw [not_not.mp same]
        exact List.Lex.cons (ih greater)

/-- Numbers below 2^53 are doubles. -/
theorem map_number {x : List Nat} (small : ∀ n ∈ x, n < 2 ^ 53) : x.map number = x := by
  have each : ∀ n ∈ x, number n = id n := fun n member => if_pos (small n member)
  rw [List.map_congr_left each, List.map_id]

/-- Versions of such numbers compare as their numbers do. -/
theorem compareVersions_eq_some {left right : String} {order : Ordering}
    (compared : compareVersions left right = some order) : ∃ x y, components left = some x ∧
      components right = some y ∧ ((∀ n ∈ x ++ y, n < 2 ^ 53) → compareNumbers x y = order) := by
  obtain ⟨_, first, compared⟩ := Option.bind_eq_some_iff.mp compared
  obtain ⟨_, second, compared⟩ := Option.bind_eq_some_iff.mp compared
  obtain ⟨x, left, rfl⟩ := Option.map_eq_some_iff.mp first
  obtain ⟨y, right, rfl⟩ := Option.map_eq_some_iff.mp second
  refine ⟨x, y, left, right, fun small => ?_⟩
  rw [map_number fun n member => small n (List.mem_append_left _ member),
    map_number fun n member => small n (List.mem_append_right _ member)] at compared
  exact Option.some.inj compared

end Versions

/-- A launch as it must be: the last answer on the file was given on what was there since it was written last, and says
that it is valid, signed with the key of the installed build, and of the version advertised; and that is above the
installed version, or below it for a rollback. -/
def Launch.Safe (setup : Installation File Content) (launch : Launch) : Prop :=
  ∃ own signature version, setup.verify setup.currentExecutable = some own ∧ own.valid ∧
    launch.verified = some (launch.written, signature) ∧ signature.valid ∧ signature.publicKey = own.publicKey ∧
    launch.voucher.version = some version ∧ signature.fileVersion = version ∧
    ∃ x y, components version = some x ∧ components setup.currentVersion = some y ∧
      ((∀ n ∈ x ++ y, n < 2 ^ 53) → if launch.rollback then x < y else y < x)

omit [DecidableEq File] in
theorem Launch.Sound.safe {launch : Launch} (sound : Launch.Sound setup launch) : Launch.Safe setup launch := by
  obtain ⟨⟨⟨own, build, valid, key⟩, order⟩, signature, verified, same⟩ := sound
  simp only [Voucher.sameSigner, Bool.and_eq_true, decide_eq_true_eq] at same
  obtain ⟨⟨fine, signer⟩, version⟩ := same
  obtain ⟨x, y, first, second, compared⟩ := compareVersions_eq_some (order _ version.symm)
  refine ⟨own, signature, signature.fileVersion, build, valid, verified, fine, signer.trans key.symm, version.symm, rfl,
    x, y, first, second, fun small => ?_⟩
  have numbers := compared small
  split at numbers
  · rename_i rollback
    rw [if_pos rollback]
    exact lt_of_compareNumbers numbers
  · rename_i install
    rw [if_neg install]
    exact gt_of_compareNumbers numbers

/-- In every run in which no step writes to a file that a call relies on, whatever is launched has been verified since
it was written. -/
theorem installers_verified_before_launch {files : File → Option Content} {events : List (Event Content)}
    (calm : Calm setup (initial files) events) :
    ∀ launch ∈ ((initial files).run setup events).launched, Launch.Safe setup launch :=
  fun launch member => (((Sound.initial files).run calm).launched launch member).safe

/-- An installed build of version 1.0.0, with the installer of version 2.0.0 and another file of that name. -/
def plainSetup : Installation String Nat where
  enabled := true
  currentVersion := "1.0.0"
  currentExecutable := 0
  verify content := some ⟨content ≠ 2, some "key", if content = 1 then "2.0.0" else "1.0.0"⟩
  size content := (content + 1) * minInstallerBytes
  resolve := id
  parse _ := none
  stringify _ := 0

def plainRelease (version : String) (size : Nat) : Release where
  draft := false
  prerelease := false
  tagName := some ("v" ++ version)
  assets := [⟨installerName version, some (size : Int), some ⟨"https:", "github.com",
    "/" ++ repository ++ "/releases/download/v" ++ version ++ "/" ++ installerName version, "", ""⟩⟩]

/-- A check downloads the update and finds the build to roll back to. -/
def plainCheck : List (Event Nat) :=
  [.check, .answer 0 true, .resume 0 .all, .metadata 0 (some (plainRelease "2.0.0" (2 * minInstallerBytes))), .land 0 1,
    .resume 0 .all, .answer 0 true, .resume 0 .all, .resume 0 .all,
    .metadata 0 (some (plainRelease "1.0.0" minInstallerBytes)), .land 0 0, .resume 0 .all, .answer 0 true,
    .resume 0 .all, .resume 0 .all]

def plainVoucher : Voucher := ⟨"PhoneAuth-Setup-2.0.0-x64.exe", some "key", some "2.0.0"⟩

def plainInstall : List (Event Nat) := plainCheck ++ [.install, .answer 0 true, .resume 0 .all, .resume 0 .all]

/-- Between the verification of an installer and its launch another check downloads another file in its place. -/
def replacedInstall : List (Event Nat) := plainCheck ++ [.install, .answer 0 true, .check, .answer 1 true,
  .resume 1 .all, .metadata 1 (some (plainRelease "2.0.0" (3 * minInstallerBytes))), .land 1 2, .resume 0 .all,
  .resume 0 .all]

theorem plainInstall_launched : ((initial fun _ => none).run plainSetup plainInstall).launched =
    [⟨false, plainVoucher, 1, some (1, ⟨true, some "key", "2.0.0"⟩)⟩] := by
  decide +kernel

theorem installers_verified_before_launch_plain :
    Launch.Safe plainSetup ⟨false, plainVoucher, 1, some (1, ⟨true, some "key", "2.0.0"⟩)⟩ :=
  installers_verified_before_launch (by decide +kernel : Calm plainSetup (initial fun _ => none) plainInstall) _
    (plainInstall_launched ▸ List.mem_singleton_self _)

theorem replaced_installer_launched : ¬∀ (files : String → Option Nat) (events : List (Event Nat)),
    ∀ launch ∈ ((initial files).run plainSetup events).launched, Launch.Safe plainSetup launch := by
  intro safe
  have launched : ((initial fun _ => none).run plainSetup replacedInstall).launched =
      [⟨false, plainVoucher, 2, some (1, ⟨true, some "key", "2.0.0"⟩)⟩] := by
    decide +kernel
  obtain ⟨_, _, _, _, _, verified, _⟩ := safe (fun _ => none) replacedInstall _ (launched ▸ List.mem_singleton_self _)
  cases verified

end SecureUpdater

end BioAuth.Desktop
