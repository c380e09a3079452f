import BioAuth.Lib.Draws
import BioAuth.Lib.Fallible
import BioAuth.Lib.FlatJson
import Mathlib.Data.FinEnum
import Mathlib.Data.List.GetD

namespace BioAuth.Agent
open BioAuth

def lowercase : Bytes := utf8 "abcdefghijklmnopqrstuvwxyz"
def uppercase : Bytes := utf8 "ABCDEFGHIJKLMNOPQRSTUVWXYZ"
def digits : Bytes := utf8 "0123456789"
def symbols : Bytes := utf8 "!#$%&()*+,-.:;<=>?@[]^_\x7b|\x7d~"

def minLength : Nat := 8
def maxLength : Nat := 128

/-- What the user asked for. -/
structure Policy where
  length : Nat
  lowercase : Bool
  uppercase : Bool
  digits : Bool
  symbols : Bool

inductive PolicyError
  | noCharacterClasses
  | lengthOutOfRange (min max : Nat)
  | tooShortForClasses (classes length : Nat)

def Policy.classes (policy : Policy) : List Bytes :=
  (if policy.lowercase then [Agent.lowercase] else []) ++ (if policy.uppercase then [Agent.uppercase] else []) ++
    (if policy.digits then [Agent.digits] else []) ++ (if policy.symbols then [Agent.symbols] else [])

def Policy.check (policy : Policy) : Except PolicyError (List Bytes) := do
  let classes := policy.classes
  require (classes ≠ []) PolicyError.noCharacterClasses
  require (minLength ≤ policy.length ∧ policy.length ≤ maxLength) (PolicyError.lengthOutOfRange minLength maxLength)
  require (classes.length ≤ policy.length) (PolicyError.tooShortForClasses classes.length policy.length)
  return classes

/-- `u64::MAX`. -/
def u64Max : UInt64 := 0xffffffffffffffff

/-- The largest multiple of a bound. -/
def limit (bound : UInt64) : UInt64 := u64Max - u64Max % bound

/-- The index a sample stands for. Samples at or above the limit stand for none. -/
def index (bound sample : UInt64) : Option Nat :=
  if sample < limit bound then some (sample % bound).toNat else none

/-- A uniform index, by rejection. -/
def indexBelow (bound : UInt64) : Draw UInt64 Nat := Draw.reject (index bound)

def character (alphabet : Bytes) : Draw UInt64 Char :=
  Draw.map (fun index => Char.ofUInt8 (alphabet.getD index 0)) (indexBelow (UInt64.ofNat alphabet.length))

def candidate (alphabet : Bytes) (length : Nat) : Draw UInt64 String :=
  Draw.map String.ofList (Draw.several (character alphabet) length)

/-- Generates one password, from what the operating system draws. -/
def generate (policy : Policy) : Except PolicyError (Draw UInt64 String) := do
  let classes ← policy.check
  let alphabet := classes.flatten
  return Draw.again (candidate alphabet policy.length) fun candidate =>
    classes.all fun cls => (utf8 candidate).any fun byte => cls.contains byte

/-- A character of a class. -/
def Of (cls : Bytes) (c : Char) : Prop := ∃ byte ∈ cls, c = Char.ofUInt8 byte

/-- A text of the length and the classes a policy asks for. -/
def Policy.Allows (policy : Policy) (text : String) : Prop :=
  text.toList.length = policy.length ∧ ∀ c ∈ text.toList, ∃ cls ∈ policy.classes, Of cls c

/-- A text with a character of each class as well. -/
def Policy.Meets (policy : Policy) (text : String) : Prop :=
  policy.Allows text ∧ ∀ cls ∈ policy.classes, ∃ c ∈ text.toList, Of cls c

section Index
variable {bound : UInt64}

theorem toNat_pos (nonzero : bound ≠ 0) : 0 < bound.toNat :=
  Nat.pos_of_ne_zero fun zero => nonzero (UInt64.toNat_inj.mp zero)

theorem limit_toNat (bound : UInt64) : (limit bound).toNat = (2 ^ 64 - 1) / bound.toNat * bound.toNat := by
  have max : u64Max.toNat = 2 ^ 64 - 1 := rfl
  have le : u64Max % bound ≤ u64Max := by
    rw [UInt64.le_iff_toNat_le, UInt64.toNat_mod]
    exact Nat.mod_le _ _
  rw [limit, UInt64.toNat_sub_of_le _ _ le, UInt64.toNat_mod, max]
  have whole := Nat.div_add_mod' (2 ^ 64 - 1) bound.toNat
  omega

theorem share_pos (nonzero : bound ≠ 0) : 0 < (2 ^ 64 - 1) / bound.toNat := by
  have small := bound.toNat_lt
  exact Nat.div_pos (by omega) (toNat_pos nonzero)

theorem limit_pos (nonzero : bound ≠ 0) : 0 < (limit bound).toNat := by
  rw [limit_toNat]
  exact Nat.mul_pos (share_pos nonzero) (toNat_pos nonzero)

/-- The part that is thrown away is shorter than the bound, and the rest at least as long. -/
theorem half_lt_limit (nonzero : bound ≠ 0) (other : bound ≠ 0x8000000000000000) : 2 ^ 63 < (limit bound).toNat := by
  have small := bound.toNat_lt
  have positive := toNat_pos nonzero
  have half : (0x8000000000000000 : UInt64).toNat = 2 ^ 63 := rfl
  have differs : bound.toNat ≠ 2 ^ 63 := fun same => other (UInt64.toNat_inj.mp (same.trans half.symm))
  rw [limit_toNat]
  have whole := Nat.div_add_mod' (2 ^ 64 - 1) bound.toNat
  have thrown := Nat.mod_lt (2 ^ 64 - 1) positive
  have least : bound.toNat ≤ (2 ^ 64 - 1) / bound.toNat * bound.toNat :=
    Nat.le_mul_of_pos_left _ (share_pos nonzero)
  omega

theorem half_le_limit (nonzero : bound ≠ 0) : 2 ^ 63 ≤ (limit bound).toNat := by
  by_cases half : bound = 0x8000000000000000
  · rw [half]
    decide
  · exact (half_lt_limit nonzero half).le

theorem index_eq_some {sample : UInt64} {i : Nat} :
    index bound sample = some i ↔ sample.toNat < (limit bound).toNat ∧ sample.toNat % bound.toNat = i := by
  rw [index]
  by_cases below : sample < limit bound
  · rw [if_pos below, Option.some.injEq, UInt64.toNat_mod]
    exact ⟨fun same => ⟨UInt64.lt_iff_toNat_lt.mp below, same⟩, And.right⟩
  · rw [if_neg below]
    exact ⟨fun absurd => (Option.some_ne_none _ absurd.symm).elim,
      fun inside => (below (UInt64.lt_iff_toNat_lt.mpr inside.1)).elim⟩

/-- Samples are counted by their values. -/
theorem card_samples {P : Nat → Prop} (small : ∀ n, P n → n < 2 ^ 64) :
    Nat.card {sample : UInt64 // P sample.toNat} = Nat.card {n // P n} := by
  have value (n : {n // P n}) : (UInt64.ofNat n.val).toNat = n.val :=
    UInt64.toNat_ofNat_of_lt' (small n.val n.2)
  exact Nat.card_congr
    { toFun := fun sample => ⟨sample.val.toNat, sample.2⟩
      invFun := fun n => ⟨UInt64.ofNat n.val, (value n).symm ▸ n.2⟩
      left_inv := fun sample => Subtype.ext (UInt64.ofNat_toNat)
      right_inv := fun n => Subtype.ext (value n) }

/-- As many numbers below a multiple of `b` leave one rest as leave any other. -/
theorem card_rest {b q i : Nat} (below : i < b) : Nat.card {n // n < q * b ∧ n % b = i} = q := by
  have inside (k : Fin q) : k.val * b + i < q * b :=
    calc k.val * b + i
      _ < (k.val + 1) * b := by rw [Nat.succ_mul]; omega
      _ ≤ q * b := Nat.mul_le_mul_right _ k.isLt
  have rest (k : Nat) : (k * b + i) % b = i := by rw [Nat.mul_add_mod', Nat.mod_eq_of_lt below]
  have share (k : Nat) : (k * b + i) / b = k := by
    rw [Nat.mul_comm, Nat.mul_add_div (by omega), Nat.div_eq_of_lt below, Nat.add_zero]
  let places : Fin q ≃ {n // n < q * b ∧ n % b = i} :=
    { toFun := fun k => ⟨k.val * b + i, inside k, rest k.val⟩
      invFun := fun n => ⟨n.val / b, Nat.div_lt_of_lt_mul (Nat.mul_comm q b ▸ n.2.1)⟩
      left_inv := fun k => Fin.ext (share k.val)
      right_inv := fun n => Subtype.ext (by
        have whole := Nat.div_add_mod' n.val b
        rw [n.2.2] at whole
        exact whole) }
  rw [← Nat.card_congr places, Nat.card_fin]

/-- Each index has as many samples as any other. -/
theorem card_index {i : Nat} (below : i < bound.toNat) :
    Nat.card {sample // index bound sample = some i} = (2 ^ 64 - 1) / bound.toNat := by
  simp only [index_eq_some, limit_toNat]
  rw [card_samples (P := fun n => n < (2 ^ 64 - 1) / bound.toNat * bound.toNat ∧ n % bound.toNat = i), card_rest below]
  intro n inside
  have most := Nat.div_mul_le_self (2 ^ 64 - 1) bound.toNat
  omega

theorem card_accepted (bound : UInt64) :
    Nat.card {sample // (index bound sample).isSome} = (limit bound).toNat := by
  have taken (sample : UInt64) : (index bound sample).isSome ↔ sample.toNat < (limit bound).toNat := by
    rw [index, ← UInt64.lt_iff_toNat_lt]
    split <;> simp [*]
  simp only [taken]
  rw [card_samples (P := (· < (limit bound).toNat)) fun n inside => inside.trans (limit bound).toNat_lt]
  exact (Nat.card_congr Fin.equivSubtype.symm).trans (Nat.card_fin _)

theorem fair_indexBelow (bound : UInt64) :
    Draw.Fair (indexBelow bound) (Finset.range bound.toNat) (Draw.waiting ((2 ^ 64 - 1) / bound.toNat : ℕ)
      (Nat.card {sample // index bound sample = none})) := by
  refine Draw.Fair.reject (fun sample i taken => ?_) fun i member => card_index (Finset.mem_range.mp member)
  have value := index_eq_some.mp taken
  rw [limit_toNat] at value
  rw [Finset.mem_range, ← value.2]
  refine Nat.mod_lt _ (Nat.pos_of_ne_zero fun zero => ?_)
  rw [zero, Nat.mul_zero] at value
  exact Nat.not_lt_zero _ value.1

/-- Every index has a sample that stands for it. -/
theorem reaches_indexBelow {i : Nat} (below : i < bound.toNat) : Draw.Reaches (indexBelow bound) i := by
  have nonzero : bound ≠ 0 := by
    rintro rfl
    exact Nat.not_lt_zero _ below
  have one : 0 < Nat.card {sample // index bound sample = some i} := card_index below ▸ share_pos nonzero
  obtain ⟨⟨sample, taken⟩⟩ := (Nat.card_pos_iff.mp one).1
  exact Draw.Reaches.reject taken

end Index

section Classes

theorem ofUInt8_injective : Function.Injective Char.ofUInt8 := by
  intro a b same
  have code := congrArg Char.toNat same
  exact UInt8.toNat_inj.mp code

/-- Every class there is. -/
def everyClass : List Bytes := [lowercase, uppercase, digits, symbols]

/-- No character is in two classes, or in one twice. -/
theorem everyClass_nodup : everyClass.flatten.Nodup := by decide +kernel

theorem everyClass_ascii : ∀ byte ∈ everyClass.flatten,
    byte.toNat < 128 ∧ String.utf8EncodeChar (Char.ofUInt8 byte) = [byte] := by decide +kernel

theorem classes_sublist (policy : Policy) : policy.classes.Sublist everyClass := by
  have kept (b : Bool) (cls : Bytes) : (if b then [cls] else []).Sublist [cls] := by
    cases b <;> simp
  exact (((kept _ _).append (kept _ _)).append (kept _ _)).append (kept _ _)

theorem alphabet_sublist (policy : Policy) : policy.classes.flatten.Sublist everyClass.flatten :=
  (classes_sublist policy).flatten

theorem alphabet_length (policy : Policy) : policy.classes.flatten.length ≤ 89 :=
  (alphabet_sublist policy).length_le

/-- The characters of an alphabet. -/
def alphabetLetters (alphabet : Bytes) : Finset Char := (alphabet.map Char.ofUInt8).toFinset

theorem mem_alphabetLetters {classes : List Bytes} {c : Char} :
    c ∈ alphabetLetters classes.flatten ↔ ∃ cls ∈ classes, Of cls c := by
  simp only [alphabetLetters, List.mem_toFinset, List.mem_map, List.mem_flatten, Of]
  constructor
  · rintro ⟨byte, ⟨cls, known, member⟩, rfl⟩
    exact ⟨cls, known, byte, member, rfl⟩
  · rintro ⟨cls, known, byte, member, rfl⟩
    exact ⟨byte, ⟨cls, known, member⟩, rfl⟩

/-- The octets of an ASCII text have one of a class where its characters do. -/
theorem any_contains {classes : List Bytes} (known : classes.Sublist everyClass) {text : String}
    (allowed : ∀ c ∈ text.toList, ∃ cls ∈ classes, Of cls c) {cls : Bytes} (member : cls ∈ classes) :
    ((utf8 text).any fun byte => cls.contains byte) = true ↔ ∃ c ∈ text.toList, Of cls c := by
  have ascii {cls : Bytes} (member : cls ∈ classes) {byte : UInt8} (inside : byte ∈ cls) :
      byte.toNat < 128 ∧ String.utf8EncodeChar (Char.ofUInt8 byte) = [byte] :=
    everyClass_ascii byte (List.mem_flatten.mpr ⟨cls, known.subset member, inside⟩)
  rw [List.any_eq_true]
  simp only [List.contains_iff_mem, utf8_eq_flatMap, List.mem_flatMap]
  constructor
  · rintro ⟨byte, ⟨c, here, spelled⟩, inside⟩
    obtain ⟨other, enabled, letter, within, rfl⟩ := allowed c here
    rw [(ascii enabled within).2, List.mem_singleton] at spelled
    exact ⟨_, here, byte, inside, by rw [spelled]⟩
  · rintro ⟨c, here, byte, inside, rfl⟩
    exact ⟨byte, ⟨_, here, by rw [(ascii member inside).2]; exact List.mem_singleton_self _⟩, inside⟩

end Classes

section Candidates

/-- The letter an index stands for is another one for each index. -/
theorem letter_injOn {alphabet : Bytes} (distinct : alphabet.Nodup) :
    Set.InjOn (fun index => Char.ofUInt8 (alphabet.getD index 0)) (Finset.range alphabet.length) := by
  intro i first j second same
  rw [Finset.coe_range, Set.mem_Iio] at first second
  have bytes := ofUInt8_injective same
  rw [List.getD_eq_getElem _ _ first, List.getD_eq_getElem _ _ second] at bytes
  exact (distinct.getElem_inj_iff).mp bytes

theorem alphabetLetters_eq (alphabet : Bytes) :
    (Finset.range alphabet.length).image (fun index => Char.ofUInt8 (alphabet.getD index 0)) = alphabetLetters alphabet := by
  ext c
  rw [alphabetLetters, List.mem_toFinset, List.mem_map, Finset.mem_image]
  constructor
  · rintro ⟨i, inside, rfl⟩
    refine ⟨alphabet.getD i 0, ?_, rfl⟩
    rw [List.getD_eq_getElem _ _ (Finset.mem_range.mp inside)]
    exact List.getElem_mem _
  · rintro ⟨byte, member, rfl⟩
    obtain ⟨i, inside, rfl⟩ := List.mem_iff_getElem.mp member
    exact ⟨i, Finset.mem_range.mpr inside, by rw [List.getD_eq_getElem _ _ inside]⟩

/-- The law of one character. -/
noncomputable def letterLaw (alphabet : Bytes) : PowerSeries ℤ :=
  Draw.waiting ((2 ^ 64 - 1) / alphabet.length : ℕ)
    (Nat.card {sample // index (UInt64.ofNat alphabet.length) sample = none})

theorem fair_character {alphabet : Bytes} (distinct : alphabet.Nodup) (short : alphabet.length < 2 ^ 64) :
    Draw.Fair (character alphabet) (alphabetLetters alphabet) (letterLaw alphabet) := by
  have fair := fair_indexBelow (UInt64.ofNat alphabet.length)
  rw [UInt64.toNat_ofNat_of_lt' short] at fair
  have mapped := fair.map (letter_injOn distinct)
  rw [alphabetLetters_eq] at mapped
  exact mapped

theorem consumes_character (alphabet : Bytes) : Draw.Consumes (character alphabet) :=
  (Draw.Consumes.reject _).map _

theorem consumes_candidate (alphabet : Bytes) {length : Nat} (some : 0 < length) :
    Draw.Consumes (candidate alphabet length) :=
  ((consumes_character alphabet).several some).map _

/-- Every text over an alphabet. -/
def texts (alphabet : Bytes) (length : Nat) : Finset String :=
  (Draw.strings (alphabetLetters alphabet) length).image String.ofList

theorem fair_candidate {alphabet : Bytes} (distinct : alphabet.Nodup) (short : alphabet.length < 2 ^ 64)
    (length : Nat) :
    Draw.Fair (candidate alphabet length) (texts alphabet length) (letterLaw alphabet ^ length) := by
  refine ((fair_character distinct short).several length).map ?_
  intro a _ b _ same
  exact String.ofList_injective same

theorem mem_texts {policy : Policy} {text : String} :
    text ∈ texts policy.classes.flatten policy.length ↔ policy.Allows text := by
  have spelled : text ∈ texts policy.classes.flatten policy.length ↔
      text.toList ∈ Draw.strings (alphabetLetters policy.classes.flatten) policy.length := by
    rw [texts, Finset.mem_image]
    constructor
    · rintro ⟨chars, member, rfl⟩
      rwa [String.toList_ofList]
    · intro member
      exact ⟨text.toList, member, String.ofList_toList⟩
  rw [spelled, Draw.mem_strings]
  simp only [mem_alphabetLetters, Policy.Allows]

/-- Every letter of an alphabet is drawn from some sample. -/
theorem reaches_character {alphabet : Bytes} (short : alphabet.length < 2 ^ 64) {c : Char}
    (member : c ∈ alphabetLetters alphabet) : Draw.Reaches (character alphabet) c := by
  rw [← alphabetLetters_eq, Finset.mem_image] at member
  obtain ⟨i, inside, rfl⟩ := member
  have below : i < (UInt64.ofNat alphabet.length).toNat := by
    rw [UInt64.toNat_ofNat_of_lt' short]
    exact Finset.mem_range.mp inside
  exact (reaches_indexBelow below).map _

theorem reaches_candidate {policy : Policy} {text : String} (allowed : policy.Allows text) :
    Draw.Reaches (candidate policy.classes.flatten policy.length) text := by
  have short := (alphabet_length policy).trans_lt (by decide : 89 < 2 ^ 64)
  have each : ∀ c ∈ text.toList, Draw.Reaches (character policy.classes.flatten) c := fun c here =>
    reaches_character short (mem_alphabetLetters.mpr (allowed.2 c here))
  have reached := (Draw.Reaches.several each).map String.ofList
  rw [allowed.1, String.ofList_toList] at reached
  exact reached

end Candidates

section Generate

/-- What `generate` keeps a candidate for. -/
def complete (policy : Policy) (candidate : String) : Bool :=
  policy.classes.all fun cls => (utf8 candidate).any fun byte => cls.contains byte

theorem complete_iff {policy : Policy} {text : String} (allowed : policy.Allows text) :
    complete policy text ↔ policy.Meets text := by
  rw [complete, List.all_eq_true, Policy.Meets, and_iff_right allowed]
  exact forall₂_congr fun cls member => any_contains (classes_sublist policy) allowed.2 member

theorem generate_eq_ok {policy : Policy} {draw : Draw UInt64 String} (made : generate policy = .ok draw) :
    draw = Draw.again (candidate policy.classes.flatten policy.length) (complete policy) ∧ 0 < policy.length := by
  obtain ⟨classes, checked, made⟩ := except_bind_eq_ok.mp made
  simp only [Policy.check, except_bind_eq_ok, except_require_eq_ok, except_pure_eq_ok] at checked
  obtain ⟨_, _, _, ⟨least, _⟩, _, _, rfl⟩ := checked
  exact ⟨(Except.ok.inj made).symm, (by decide : 0 < minLength).trans_le least⟩

theorem letterLaw_waits (alphabet : Bytes) {length : Nat} (many : 0 < length) :
    PowerSeries.constantCoeff (letterLaw alphabet ^ length) = 0 := by
  have zero : PowerSeries.constantCoeff (letterLaw alphabet) = 0 := by
    rw [letterLaw, Draw.waiting_eq, map_mul, PowerSeries.constantCoeff_X, zero_mul]
  rw [map_pow, zero, zero_pow many.ne']

theorem fair_candidates (policy : Policy) :
    Draw.Fair (candidate policy.classes.flatten policy.length) (texts policy.classes.flatten policy.length)
      (letterLaw policy.classes.flatten ^ policy.length) :=
  fair_candidate ((alphabet_sublist policy).nodup everyClass_nodup)
    ((alphabet_length policy).trans_lt (by decide : 89 < 2 ^ 64)) policy.length

theorem even_generate {policy : Policy} {draw : Draw UInt64 String} (made : generate policy = .ok draw) :
    Draw.Even draw policy.Meets := by
  obtain ⟨rfl, many⟩ := generate_eq_ok made
  have consumes := consumes_candidate policy.classes.flatten many
  refine ((fair_candidates policy).again consumes (letterLaw_waits _ many) _).even (fun text => ?_) fun text meets =>
    (reaches_candidate meets.1).again consumes ((complete_iff meets.1).mpr meets)
  rw [Finset.mem_filter, mem_texts]
  exact ⟨fun kept => (complete_iff kept.1).mp kept.2, fun meets => ⟨meets.1, (complete_iff meets.1).mpr meets⟩⟩

/-- Indices are sampled without bias. -/
structure Unbiased (bound : UInt64) : Prop where
  multiple : bound.toNat ∣ (limit bound).toNat
  positive : 0 < (limit bound).toNat
  same : ∃ each, 0 < each ∧ ∀ i < bound.toNat, Nat.card {sample // index bound sample = some i} = each
  half : 2 ^ 64 ≤ 2 * Nat.card {sample // (index bound sample).isSome}
  more : bound ≠ 0x8000000000000000 → 2 ^ 64 < 2 * Nat.card {sample // (index bound sample).isSome}
  even : Draw.Even (indexBelow bound) (· < bound.toNat)

theorem unbiased {bound : UInt64} (nonzero : bound ≠ 0) : Unbiased bound := by
  have whole := share_pos nonzero
  exact {
    multiple := by
      rw [limit_toNat]
      exact Nat.dvd_mul_left _ _
    positive := limit_pos nonzero
    same := ⟨_, whole, fun i below => card_index below⟩
    half := by
      rw [card_accepted]
      have least := half_le_limit nonzero
      omega
    more := by
      intro other
      rw [card_accepted]
      have least := half_lt_limit nonzero other
      omega
    even := (fair_indexBelow bound).even (fun i => Finset.mem_range) fun i below => reaches_indexBelow below }

/-- Indices are drawn without bias, with every other sample accepted at the least, and so are candidates and passwords:
the candidates are the texts of the policy's length over its classes, and the passwords those with all of its
classes. -/
theorem passwords_evenly_drawn :
    (∀ bound : UInt64, bound ≠ 0 → Unbiased bound) ∧
      ∀ policy draw, generate policy = .ok draw →
        Draw.Even (candidate policy.classes.flatten policy.length) policy.Allows ∧ Draw.Even draw policy.Meets := by
  refine ⟨fun bound nonzero => unbiased nonzero, fun policy draw made => ⟨?_, even_generate made⟩⟩
  exact (fair_candidates policy).even (fun _ => mem_texts) fun _ => reaches_candidate

theorem passwords_evenly_drawn_twenty :
    Unbiased 89 ∧ ∃ draw, generate ⟨20, true, true, true, true⟩ = .ok draw ∧
      Draw.Even draw (Policy.Meets ⟨20, true, true, true, true⟩) :=
  ⟨passwords_evenly_drawn.1 89 (by decide), _, rfl, (passwords_evenly_drawn.2 ⟨20, true, true, true, true⟩ _ rfl).2⟩

/-- Of the samples for one bound no more than half are accepted. -/
theorem half_accepted :
    ¬∀ bound : UInt64, bound ≠ 0 → 2 ^ 64 < 2 * Nat.card {sample // (index bound sample).isSome} := by
  intro more
  have above := more 0x8000000000000000 (by decide)
  rw [card_accepted] at above
  exact absurd above (by decide)

end Generate

end BioAuth.Agent
