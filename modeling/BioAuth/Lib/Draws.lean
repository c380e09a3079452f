import Mathlib.Data.Fintype.Option
import Mathlib.Data.Set.Finite.List
import Mathlib.RingTheory.PowerSeries.Basic
import Mathlib.RingTheory.PowerSeries.Inverse
import Mathlib.SetTheory.Cardinal.Finite
import Mathlib.Tactic.LinearCombination
import Mathlib.Tactic.Ring

namespace BioAuth

/-- A program on samples: what it draws and the samples behind that, or nothing while it waits for more of them. -/
abbrev Draw (Ω α : Type) := List Ω → Option (α × List Ω)

namespace Draw
open PowerSeries
variable {Ω α β γ : Type}

/-- How many strings of so many samples meet a condition. -/
noncomputable def ways (count : Nat) (P : List Ω → Prop) : Nat :=
  Nat.card {samples : List Ω // samples.length = count ∧ P samples}

/-- The numbers of strings of each length. -/
noncomputable def series (P : List Ω → Prop) : ℤ⟦X⟧ := PowerSeries.mk fun count => (ways count P : ℤ)

section Ways

theorem series_congr {P Q : List Ω → Prop} (same : ∀ samples, P samples ↔ Q samples) : series P = series Q := by
  rw [funext fun samples => propext (same samples)]

theorem ways_none (count : Nat) {P : List Ω → Prop} (none : ∀ samples, ¬P samples) : ways count P = 0 := by
  have empty : IsEmpty {samples : List Ω // samples.length = count ∧ P samples} := ⟨fun entry => none _ entry.2.2⟩
  exact Nat.card_of_isEmpty

@[simp] theorem ways_zero (P : List Ω → Prop) [Decidable (P [])] : ways 0 P = if P [] then 1 else 0 := by
  split
  · rename_i here
    have only : Unique {samples : List Ω // samples.length = 0 ∧ P samples} :=
      ⟨⟨⟨[], rfl, here⟩⟩, fun entry => Subtype.ext (List.length_eq_zero_iff.mp entry.2.1)⟩
    exact Nat.card_unique
  · rename_i absent
    have empty : IsEmpty {samples : List Ω // samples.length = 0 ∧ P samples} :=
      ⟨fun entry => absent (List.length_eq_zero_iff.mp entry.2.1 ▸ entry.2.2)⟩
    exact Nat.card_of_isEmpty

variable [Fintype Ω]

instance (count : Nat) (P : List Ω → Prop) : Finite {samples : List Ω // samples.length = count ∧ P samples} :=
  ((List.finite_length_eq Ω count).subset fun _ entry => entry.1).to_subtype

/-- The first sample and the ones behind it. -/
theorem ways_succ (count : Nat) (P : List Ω → Prop) :
    ways (count + 1) P = ∑ sample, ways count fun samples => P (sample :: samples) := by
  let cut : {samples : List Ω // samples.length = count + 1 ∧ P samples} ≃
      Σ sample : Ω, {samples : List Ω // samples.length = count ∧ P (sample :: samples)} :=
    { toFun := fun
        | ⟨sample :: samples, length, meets⟩ => ⟨sample, samples, Nat.succ.inj length, meets⟩
      invFun := fun entry => ⟨entry.1 :: entry.2.1, congrArg (· + 1) entry.2.2.1, entry.2.2.2⟩
      left_inv := fun
        | ⟨_ :: _, _, _⟩ => rfl
      right_inv := fun _ => rfl }
  rw [ways, Nat.card_congr cut, Nat.card_sigma]
  rfl

theorem series_cons (P : List Ω → Prop) [Decidable (P [])] :
    series P = (if P [] then 1 else 0) + X * ∑ sample, series fun samples => P (sample :: samples) := by
  ext count
  cases count with
  | zero =>
    rw [map_add, coeff_zero_X_mul, add_zero, series, coeff_mk, ways_zero]
    split <;> simp
  | succ count =>
    rw [map_add, coeff_succ_X_mul, map_sum, series, coeff_mk, ways_succ]
    have none : coeff (count + 1) (if P [] then (1 : ℤ⟦X⟧) else 0) = 0 := by
      split
      · rw [coeff_one, if_neg (Nat.succ_ne_zero count)]
      · rw [map_zero]
    rw [none, zero_add, Nat.cast_sum]
    refine Finset.sum_congr rfl fun sample _ => ?_
    rw [series, coeff_mk]

theorem series_nil : series (fun samples : List Ω => samples = []) = 1 := by
  have behind (sample : Ω) : series (fun samples => sample :: samples = []) = 0 := by
    ext count
    rw [series, coeff_mk, ways_none count fun _ => List.cons_ne_nil _ _, map_zero, Nat.cast_zero]
  rw [series_cons, if_pos rfl, Finset.sum_eq_zero fun sample _ => behind sample, mul_zero, add_zero]

omit [Fintype Ω] in
theorem series_none {P : List Ω → Prop} (none : ∀ samples, ¬P samples) : series P = 0 := by
  ext count
  rw [series, coeff_mk, ways_none count none, map_zero, Nat.cast_zero]

end Ways

section Fair
variable [Fintype Ω]

/-- What is drawn, and a condition on it and on the samples behind it. -/
def After (d : Draw Ω α) (K : α → List Ω → Prop) (samples : List Ω) : Prop :=
  ∃ a rest, d samples = some (a, rest) ∧ K a rest

/-- Each of these is drawn, in as many ways as any other, and nothing else is. -/
def Fair (d : Draw Ω α) (outcomes : Finset α) (law : ℤ⟦X⟧) : Prop :=
  ∀ K : α → List Ω → Prop, series (After d K) = law * ∑ a ∈ outcomes, series (K a)

/-- Samples that are not accepted are thrown away. -/
def reject (accept : Ω → Option α) : Draw Ω α
  | [] => none
  | sample :: samples =>
    match accept sample with
    | some a => some (a, samples)
    | none => reject accept samples

def both (d : Draw Ω α) (e : Draw Ω β) (pair : α → β → γ) : Draw Ω γ := fun samples => do
  let (a, samples) ← d samples
  let (b, samples) ← e samples
  return (pair a b, samples)

/-- What is left to hold once a sample is judged. -/
def judged (accept : Ω → Option α) (K : α → List Ω → Prop) : Option α → List Ω → Prop
  | some a => K a
  | none => After (reject accept) K

omit [Fintype Ω] in
theorem after_reject_cons (accept : Ω → Option α) (K : α → List Ω → Prop) (sample : Ω) (samples : List Ω) :
    After (reject accept) K (sample :: samples) ↔ judged accept K (accept sample) samples := by
  unfold After
  rw [reject]
  rcases accept sample with _ | a
  · rfl
  · constructor
    · rintro ⟨_, _, same, holds⟩
      cases same
      exact holds
    · intro holds
      exact ⟨a, samples, rfl, holds⟩

/-- Waiting for a sample that one of `taken` brings on and one of `thrown` does not. -/
noncomputable def waiting (taken thrown : ℤ) : ℤ⟦X⟧ :=
  PowerSeries.mk fun
    | 0 => 0
    | count + 1 => taken * thrown ^ count

omit [Fintype Ω] in
theorem waiting_eq (taken thrown : ℤ) :
    waiting taken thrown = X * (C taken + C thrown * waiting taken thrown) := by
  ext count
  cases count with
  | zero => simp [waiting]
  | succ count =>
    rw [coeff_succ_X_mul, map_add, coeff_C_mul, waiting, coeff_mk]
    cases count with
    | zero => simp
    | succ count =>
      rw [coeff_mk, coeff_C, if_neg (Nat.succ_ne_zero count), zero_add]
      ring

/-- There is one way to wait. -/
theorem waiting_unique {taken thrown : ℤ} {sum law : ℤ⟦X⟧} (same : law = X * (C taken * sum + C thrown * law)) :
    law = waiting taken thrown * sum := by
  have unit : (1 - C thrown * X : ℤ⟦X⟧) ≠ 0 := by
    intro zero
    have first := congrArg (coeff 0) zero
    simp at first
  have mine := waiting_eq taken thrown
  refine mul_left_cancel₀ unit ?_
  linear_combination same - sum * mine

theorem sum_accept {accept : Ω → Option α} {outcomes : Finset α} {taken : Nat}
    (known : ∀ sample a, accept sample = some a → a ∈ outcomes)
    (even : ∀ a ∈ outcomes, Nat.card {sample // accept sample = some a} = taken) (F : Option α → ℤ⟦X⟧) :
    ∑ sample, F (accept sample) = C (taken : ℤ) * ∑ a ∈ outcomes, F (some a) +
      C (Nat.card {sample // accept sample = none} : ℤ) * F none := by
  classical
  have fiber (outcome : Option α) : ∑ sample with accept sample = outcome, F (accept sample) =
      C (Nat.card {sample // accept sample = outcome} : ℤ) * F outcome := by
    have constant : ∀ sample ∈ Finset.univ.filter (accept · = outcome), F (accept sample) = F outcome :=
      fun sample member => congrArg F (Finset.mem_filter.mp member).2
    rw [Finset.sum_congr rfl constant, Finset.sum_const, Nat.card_eq_fintype_card, Fintype.card_subtype, nsmul_eq_mul]
    norm_cast
  have inside : ∀ sample ∈ Finset.univ, accept sample ∈ Finset.insertNone outcomes := by
    intro sample _
    rw [Finset.mem_insertNone]
    exact fun a same => known sample a same
  rw [← Finset.sum_fiberwise_of_maps_to inside]
  simp only [fiber]
  rw [Finset.sum_insertNone, add_comm, Finset.mul_sum]
  congr 1
  exact Finset.sum_congr rfl fun a member => by rw [even a member]

/-- Throwing samples away favours nobody. -/
theorem Fair.reject {accept : Ω → Option α} {outcomes : Finset α} {taken : Nat}
    (known : ∀ sample a, accept sample = some a → a ∈ outcomes)
    (even : ∀ a ∈ outcomes, Nat.card {sample // accept sample = some a} = taken) :
    Fair (reject accept) outcomes (waiting taken (Nat.card {sample // accept sample = none})) := by
  intro K
  have start : ¬After (Draw.reject accept) K [] := by
    rintro ⟨_, _, same, _⟩
    cases same
  classical
  refine waiting_unique ?_
  calc series (After (Draw.reject accept) K)
    _ = X * ∑ sample, series (judged accept K (accept sample)) := by
      rw [series_cons, if_neg start, zero_add]
      exact congrArg (X * ·) <| Finset.sum_congr rfl fun sample _ =>
        series_congr (after_reject_cons accept K sample)
    _ = X * (C (taken : ℤ) * ∑ a ∈ outcomes, series (K a) +
          C (Nat.card {sample // accept sample = none} : ℤ) * series (After (Draw.reject accept) K)) := by
      rw [sum_accept known even fun outcome => series (judged accept K outcome)]
      rfl

omit [Fintype Ω] in
theorem after_both (d : Draw Ω α) (e : Draw Ω β) (pair : α → β → γ) (K : γ → List Ω → Prop) (samples : List Ω) :
    After (both d e pair) K samples ↔ After d (fun a => After e fun b => K (pair a b)) samples := by
  simp only [After, both, Option.bind_eq_bind, Option.bind_eq_some_iff, Prod.exists, Option.pure_def, Option.some.injEq,
    Prod.mk.injEq]
  constructor
  · rintro ⟨_, _, ⟨a, mid, first, b, rest, second, rfl, rfl⟩, holds⟩
    exact ⟨a, mid, first, b, rest, second, holds⟩
  · rintro ⟨a, mid, first, b, rest, second, holds⟩
    exact ⟨_, _, ⟨a, mid, first, b, rest, second, rfl, rfl⟩, holds⟩

/-- Lists of so many, each of these. -/
def strings [DecidableEq α] (outcomes : Finset α) : Nat → Finset (List α)
  | 0 => {[]}
  | count + 1 => (outcomes ×ˢ strings outcomes count).image fun pair => pair.1 :: pair.2

omit [Fintype Ω] in
theorem mem_strings [DecidableEq α] {outcomes : Finset α} {count : Nat} {string : List α} :
    string ∈ strings outcomes count ↔ string.length = count ∧ ∀ a ∈ string, a ∈ outcomes := by
  induction count generalizing string with
  | zero =>
    rw [strings, Finset.mem_singleton, List.length_eq_zero_iff]
    exact ⟨fun nil => ⟨nil, by simp [nil]⟩, And.left⟩
  | succ count ih =>
    simp only [strings, Finset.mem_image, Finset.mem_product, Prod.exists, ih]
    constructor
    · rintro ⟨a, rest, ⟨known, length, all⟩, rfl⟩
      exact ⟨congrArg (· + 1) length, List.forall_mem_cons.mpr ⟨known, all⟩⟩
    · rintro ⟨length, all⟩
      cases string with
      | nil => cases length
      | cons a rest =>
        have ⟨known, all⟩ := List.forall_mem_cons.mp all
        exact ⟨a, rest, ⟨known, Nat.succ.inj length, all⟩, rfl⟩

omit [Fintype Ω] in
theorem strings_sum [DecidableEq α] (outcomes : Finset α) (count : Nat) (F : List α → ℤ⟦X⟧) :
    ∑ string ∈ strings outcomes (count + 1), F string =
      ∑ a ∈ outcomes, ∑ string ∈ strings outcomes count, F (a :: string) := by
  rw [strings, Finset.sum_image, Finset.sum_product]
  rintro ⟨a, rest⟩ _ ⟨b, other⟩ _ same
  exact Prod.ext (List.cons.inj same).1 (List.cons.inj same).2

/-- So many draws, one after another. -/
def several (d : Draw Ω α) : Nat → Draw Ω (List α)
  | 0 => fun samples => some ([], samples)
  | count + 1 => both d (several d count) List.cons

omit [Fintype Ω] in
theorem Fair.several [DecidableEq α] {d : Draw Ω α} {outcomes : Finset α} {law : ℤ⟦X⟧} (fair : Fair d outcomes law)
    (count : Nat) : Fair (several d count) (strings outcomes count) (law ^ count) := by
  intro K
  induction count generalizing K with
  | zero =>
    have at_once (samples : List Ω) : After (Draw.several d 0) K samples ↔ K [] samples := by
      simp [After, Draw.several]
    rw [series_congr at_once, strings, Finset.sum_singleton, pow_zero, one_mul]
  | succ count ih =>
    calc series (After (Draw.several d (count + 1)) K)
      _ = law * ∑ a ∈ outcomes, series (After (Draw.several d count) fun rest => K (a :: rest)) := by
        rw [Draw.several, series_congr (after_both d _ _ K), fair]
      _ = law * ∑ a ∈ outcomes, law ^ count * ∑ rest ∈ strings outcomes count, series (K (a :: rest)) := by
        rw [Finset.sum_congr rfl fun a _ => ih fun rest => K (a :: rest)]
      _ = law ^ (count + 1) * ∑ string ∈ strings outcomes (count + 1), series (K string) := by
        rw [← Finset.mul_sum, strings_sum, pow_succ']
        ring

def map (f : α → β) (d : Draw Ω α) : Draw Ω β := fun samples => (d samples).map fun drawn => (f drawn.1, drawn.2)

omit [Fintype Ω] in
theorem after_map (f : α → β) (d : Draw Ω α) (K : β → List Ω → Prop) (samples : List Ω) :
    After (map f d) K samples ↔ After d (fun a => K (f a)) samples := by
  unfold After map
  rcases d samples with _ | ⟨a, rest⟩ <;> simp

omit [Fintype Ω] in
theorem Fair.map [DecidableEq β] {d : Draw Ω α} {outcomes : Finset α} {law : ℤ⟦X⟧} (fair : Fair d outcomes law)
    {f : α → β} (apart : Set.InjOn f outcomes) : Fair (map f d) (outcomes.image f) law := by
  intro K
  rw [series_congr (after_map f d K), fair, Finset.sum_image apart]

end Fair

section Consumes

/-- A draw takes at least one sample. -/
def Consumes (d : Draw Ω α) : Prop := ∀ samples a rest, d samples = some (a, rest) → rest.length < samples.length

theorem Consumes.nil {d : Draw Ω α} (consumes : Consumes d) : d [] = none := by
  cases drawn : d [] with
  | none => rfl
  | some outcome => exact absurd (consumes [] outcome.1 outcome.2 drawn) (Nat.not_lt_zero _)

theorem Consumes.reject (accept : Ω → Option α) : Consumes (reject accept) := by
  intro samples
  induction samples with
  | nil =>
    intro _ _ drawn
    cases drawn
  | cons sample samples ih =>
    intro a rest drawn
    rw [Draw.reject] at drawn
    split at drawn
    · cases drawn
      exact Nat.lt_succ_self _
    · exact (ih a rest drawn).trans (Nat.lt_succ_self _)

theorem Consumes.map {d : Draw Ω α} (consumes : Consumes d) (f : α → β) : Consumes (map f d) := by
  intro samples b rest drawn
  obtain ⟨⟨a, _⟩, inner, same⟩ := Option.map_eq_some_iff.mp drawn
  cases same
  exact consumes samples a _ inner

theorem both_eq_some {d : Draw Ω α} {e : Draw Ω β} {pair : α → β → γ} {samples rest : List Ω} {c : γ} :
    both d e pair samples = some (c, rest) ↔
      ∃ a mid b, d samples = some (a, mid) ∧ e mid = some (b, rest) ∧ pair a b = c := by
  simp only [both, Option.bind_eq_bind, Option.bind_eq_some_iff, Prod.exists, Option.pure_def, Option.some.injEq,
    Prod.mk.injEq]
  constructor
  · rintro ⟨a, mid, first, b, _, second, same, rfl⟩
    exact ⟨a, mid, b, first, second, same⟩
  · rintro ⟨a, mid, b, first, second, same⟩
    exact ⟨a, mid, first, b, rest, second, same, rfl⟩

/-- Every member of the list was drawn, each from a sample of its own at least. -/
theorem several_drawn {d : Draw Ω α} (consumes : Consumes d) {count : Nat} {samples rest : List Ω}
    {string : List α} (drawn : several d count samples = some (string, rest)) :
    string.length = count ∧ (∀ a ∈ string, ∃ before after, d before = some (a, after)) ∧
      rest.length + count ≤ samples.length := by
  induction count generalizing samples string with
  | zero =>
    cases drawn
    exact ⟨rfl, by simp, le_rfl⟩
  | succ count ih =>
    rw [several] at drawn
    obtain ⟨a, mid, others, first, second, rfl⟩ := both_eq_some.mp drawn
    obtain ⟨length, each, left⟩ := ih second
    have less := consumes samples a mid first
    exact ⟨congrArg (· + 1) length, List.forall_mem_cons.mpr ⟨⟨samples, mid, first⟩, each⟩, by omega⟩

theorem Consumes.several {d : Draw Ω α} (consumes : Consumes d) {count : Nat} (many : 0 < count) :
    Consumes (several d count) := by
  intro samples string rest drawn
  have left := (several_drawn consumes drawn).2.2
  omega

end Consumes

section Reaches

/-- Some samples lead to this outcome, and to no sample behind them. -/
def Reaches (d : Draw Ω α) (a : α) : Prop := ∃ samples, ∀ rest, d (samples ++ rest) = some (a, rest)

theorem Reaches.reject {accept : Ω → Option α} {sample : Ω} {a : α} (taken : accept sample = some a) :
    Reaches (reject accept) a := by
  refine ⟨[sample], fun rest => ?_⟩
  rw [List.singleton_append, Draw.reject, taken]

theorem Reaches.map {d : Draw Ω α} {a : α} (reaches : Reaches d a) (f : α → β) : Reaches (map f d) (f a) := by
  obtain ⟨samples, drawn⟩ := reaches
  exact ⟨samples, fun rest => by rw [Draw.map, drawn]; rfl⟩

theorem Reaches.several {d : Draw Ω α} {string : List α} (each : ∀ a ∈ string, Reaches d a) :
    Reaches (several d string.length) string := by
  induction string with
  | nil => exact ⟨[], fun _ => rfl⟩
  | cons a string ih =>
    obtain ⟨⟨here, first⟩, behind⟩ := List.forall_mem_cons.mp each
    obtain ⟨there, second⟩ := ih behind
    refine ⟨here ++ there, fun rest => both_eq_some.mpr ⟨a, there ++ rest, string, ?_, second rest, rfl⟩⟩
    rw [List.append_assoc, first]

end Reaches

section Again

/-- Drawing once more until the outcome will do, so many times at most. -/
def rounds (d : Draw Ω α) (good : α → Bool) : Nat → Draw Ω α
  | 0, _ => none
  | left + 1, samples => do
    let (a, samples) ← d samples
    if good a then
      return (a, samples)
    rounds d good left samples

/-- A draw takes at least one sample, so there are no more rounds than samples. -/
def again (d : Draw Ω α) (good : α → Bool) : Draw Ω α := fun samples => rounds d good samples.length samples

theorem rounds_nil {d : Draw Ω α} (consumes : Consumes d) (good : α → Bool) (left : Nat) :
    rounds d good left [] = none := by
  cases left with
  | zero => rfl
  | succ left => simp [rounds, consumes.nil]

theorem rounds_enough {d : Draw Ω α} {good : α → Bool} (consumes : Consumes d) {left right : Nat}
    {samples : List Ω} (few : samples.length ≤ left) (fewer : samples.length ≤ right) :
    rounds d good left samples = rounds d good right samples := by
  induction left generalizing right samples with
  | zero =>
    obtain rfl := List.length_eq_zero_iff.mp (Nat.le_zero.mp few)
    rw [rounds_nil consumes, rounds_nil consumes]
  | succ left ih =>
    cases right with
    | zero =>
      obtain rfl := List.length_eq_zero_iff.mp (Nat.le_zero.mp fewer)
      rw [rounds_nil consumes, rounds_nil consumes]
    | succ right =>
      rw [rounds, rounds]
      rcases drawn : d samples with _ | ⟨a, rest⟩
      · rfl
      · have less := consumes samples a rest drawn
        simp only [Option.bind_eq_bind, Option.bind_some]
        rw [ih (by omega) (show rest.length ≤ right by omega)]

theorem again_eq {d : Draw Ω α} {good : α → Bool} (consumes : Consumes d) (samples : List Ω) :
    again d good samples =
      (d samples).bind fun drawn => if good drawn.1 then some drawn else again d good drawn.2 := by
  rcases drawn : d samples with _ | ⟨a, rest⟩
  · unfold again
    cases samples.length <;> simp [rounds, drawn]
  · have less := consumes samples a rest drawn
    obtain ⟨left, length⟩ : ∃ left, samples.length = left + 1 := ⟨samples.length - 1, by omega⟩
    have enough : rounds d good left rest = again d good rest := rounds_enough consumes (by omega) le_rfl
    rw [again, length]
    simp only [rounds, drawn, Option.bind_eq_bind, Option.bind_some, enough, Option.pure_def]

theorem after_again {d : Draw Ω α} {good : α → Bool} (consumes : Consumes d) (K : α → List Ω → Prop)
    (samples : List Ω) :
    After (again d good) K samples ↔
      After d (fun a => if good a then K a else After (again d good) K) samples := by
  unfold After
  rw [again_eq consumes]
  rcases d samples with _ | ⟨a, rest⟩
  · simp
  · by_cases fine : good a
    · simp [fine]
    · simp [fine]

theorem Reaches.again {d : Draw Ω α} {good : α → Bool} (consumes : Consumes d) {a : α} (reaches : Reaches d a)
    (fine : good a) : Reaches (again d good) a := by
  obtain ⟨samples, drawn⟩ := reaches
  refine ⟨samples, fun rest => ?_⟩
  rw [again_eq consumes, drawn, Option.bind_some, if_pos fine]

/-- What drawing again makes of the law of one draw. -/
noncomputable def againLaw (law : ℤ⟦X⟧) (thrown : Nat) : ℤ⟦X⟧ := law * invOfUnit (1 - C (thrown : ℤ) * law) 1

/-- Drawing once more favours nobody either. -/
theorem Fair.again {d : Draw Ω α} {outcomes : Finset α} {law : ℤ⟦X⟧} (fair : Fair d outcomes law)
    (consumes : Consumes d) (waits : constantCoeff law = 0) (good : α → Bool) :
    Fair (again d good) (outcomes.filter (good ·)) (againLaw law (outcomes.filter (¬good ·)).card) := by
  intro K
  set whole := series (After (Draw.again d good) K)
  set fine := ∑ a ∈ outcomes.filter (good ·), series (K a)
  set thrown := (outcomes.filter (¬good ·)).card
  have kept : ∑ a ∈ outcomes.filter (good ·), series (if good a then K a else After (Draw.again d good) K) = fine :=
    Finset.sum_congr rfl fun a member => by rw [if_pos (Finset.mem_filter.mp member).2]
  have redrawn : ∑ a ∈ outcomes.filter (¬good ·), series (if good a then K a else After (Draw.again d good) K) =
      C (thrown : ℤ) * whole := by
    rw [Finset.sum_congr rfl fun a member => by rw [if_neg (Finset.mem_filter.mp member).2], Finset.sum_const,
      nsmul_eq_mul]
    norm_cast
  have step : whole = law * (fine + C (thrown : ℤ) * whole) := by
    refine (series_congr (after_again consumes K)).trans ?_
    rw [fair, ← Finset.sum_filter_add_sum_filter_not outcomes (good ·), kept, redrawn]
  have unit : (1 - C (thrown : ℤ) * law) * invOfUnit (1 - C (thrown : ℤ) * law) 1 = 1 :=
    mul_invOfUnit _ _ (by simp [waits])
  rw [againLaw]
  linear_combination invOfUnit (1 - C (thrown : ℤ) * law) 1 * step - whole * unit

variable [Fintype Ω]

/-- Any two of the outcomes are drawn in equally many ways, whatever the number of samples. -/
theorem Fair.equal {d : Draw Ω α} {outcomes : Finset α} {law : ℤ⟦X⟧} (fair : Fair d outcomes law) {a b : α}
    (left : a ∈ outcomes) (right : b ∈ outcomes) (count : Nat) :
    ways count (fun samples => d samples = some (a, [])) = ways count fun samples => d samples = some (b, []) := by
  classical
  have exactly (c : α) (member : c ∈ outcomes) : series (fun samples => d samples = some (c, [])) = law := by
    have spelled (samples : List Ω) :
        d samples = some (c, []) ↔ After d (fun other rest => rest = [] ∧ other = c) samples :=
      ⟨fun drawn => ⟨c, [], drawn, rfl, rfl⟩, fun ⟨_, _, drawn, done, same⟩ => by rw [drawn, done, same]⟩
    have each (other : α) : series (fun rest : List Ω => rest = [] ∧ other = c) = if other = c then 1 else 0 := by
      split
      · rename_i same
        rw [series_congr fun rest => and_iff_left same, series_nil]
      · rename_i differs
        exact series_none fun rest both => differs both.2
    rw [series_congr spelled, fair, Finset.sum_congr rfl fun other _ => each other, Finset.sum_ite_eq' outcomes c,
      if_pos member, mul_one]
  have same := congrArg (coeff count) ((exactly a left).trans (exactly b right).symm)
  rw [series, series, coeff_mk, coeff_mk] at same
  exact Nat.cast_injective same

/-- Nothing but the outcomes is drawn. -/
theorem Fair.mem {d : Draw Ω α} {outcomes : Finset α} {law : ℤ⟦X⟧} (fair : Fair d outcomes law) {samples rest : List Ω}
    {a : α} (drawn : d samples = some (a, rest)) : a ∈ outcomes := by
  by_contra outside
  have none : series (After d fun b _ => b = a) = 0 := by
    have each : ∀ b ∈ outcomes, series (fun _ : List Ω => b = a) = 0 := fun b member =>
      series_none fun _ same => outside (same ▸ member)
    rw [fair, Finset.sum_congr rfl each, Finset.sum_const_zero, mul_zero]
  have count : ways samples.length (After d fun b _ => b = a) = 0 := by
    have zero := congrArg (coeff samples.length) none
    rw [series, coeff_mk, map_zero] at zero
    exact_mod_cast zero
  have here : Nonempty {other : List Ω // other.length = samples.length ∧ After d (fun b _ => b = a) other} :=
    ⟨samples, rfl, a, rest, drawn, rfl⟩
  exact Nat.card_pos.ne' count

/-- These are drawn and nothing else is, and any two of them from as many strings of samples of each length. -/
structure Even (d : Draw Ω α) (allowed : α → Prop) : Prop where
  only : ∀ samples a rest, d samples = some (a, rest) → allowed a
  all : ∀ a, allowed a → Reaches d a
  equal : ∀ a b, allowed a → allowed b → ∀ count,
    ways count (fun samples => d samples = some (a, [])) = ways count fun samples => d samples = some (b, [])

theorem Fair.even {d : Draw Ω α} {outcomes : Finset α} {law : ℤ⟦X⟧} (fair : Fair d outcomes law) {allowed : α → Prop}
    (known : ∀ a, a ∈ outcomes ↔ allowed a) (reaches : ∀ a, allowed a → Reaches d a) : Even d allowed where
  only := fun _ a _ drawn => (known a).mp (fair.mem drawn)
  all := reaches
  equal := fun a b left right => fair.equal ((known a).mpr left) ((known b).mpr right)

end Again

end Draw

end BioAuth
