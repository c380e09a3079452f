import Mathlib.Data.List.Forall2
import Mathlib.Data.List.Infix

namespace BioAuth.SuffixRules
variable {α : Type} (star : α)

/-- A rule covers as many labels, each its own or any where it has a star. -/
def Covers (rule part : List α) : Prop := List.Forall₂ (fun own label => own = star ∨ own = label) rule part

/-- The labels at the end of a domain that a rule matches. -/
structure Matches (rule domain part : List α) : Prop where
  ends : part <:+ domain
  covers : Covers star rule part

/-- What governs a domain. An exception prevails over every rule, and its own leftmost label is not part of the suffix; of
rules that match, the one with the most labels prevails; where none matches, the last label is the suffix. -/
inductive Governs (rules exceptions : List (List α)) (domain suffix : List α) : Prop
  | exception {rule part : List α} (listed : rule ∈ exceptions) (matched : Matches star rule domain part)
    (prevails : ∀ other ∈ exceptions, ∀ its, Matches star other domain its → other.length ≤ rule.length)
    (same : suffix = part.tail)
  | rule {rule : List α} (plain : ∀ other ∈ exceptions, ∀ its, ¬Matches star other domain its) (listed : rule ∈ rules)
    (matched : Matches star rule domain suffix)
    (prevails : ∀ other ∈ rules, ∀ its, Matches star other domain its → other.length ≤ rule.length)
  | implicit (plain : ∀ other ∈ exceptions, ∀ its, ¬Matches star other domain its)
    (unlisted : ∀ other ∈ rules, ∀ its, ¬Matches star other domain its) (ends : suffix <:+ domain)
    (one : suffix.length = 1)

/-- The first of the suffixes of a list that passes, from the longest on. -/
def firstSuffix (passes : List α → Bool) : List α → Option (List α)
  | [] => none
  | label :: rest => if passes (label :: rest) then some (label :: rest) else firstSuffix passes rest

/-- A part is listed as it is. -/
def named [DecidableEq α] (exceptions : List (List α)) (part : List α) : Bool := part ∈ exceptions

/-- A part is listed as it is, or with a star in the place of its first label. -/
def listed [DecidableEq α] (rules : List (List α)) (part : List α) : Bool :=
  part ∈ rules ∨ 1 < part.length ∧ star :: part.tail ∈ rules

/-- The suffix of a domain, by two scans from the left. -/
def governing [DecidableEq α] (rules exceptions : List (List α)) (domain : List α) : List α :=
  match firstSuffix (named exceptions) domain with
  | some part => part.tail
  | none => (firstSuffix (listed star rules) domain).getD (domain.drop (domain.length - 1))

variable {star}

theorem covers_self (rule : List α) : Covers star rule rule := List.forall₂_same.mpr fun _ _ => Or.inr rfl

theorem Covers.length {rule part : List α} (covers : Covers star rule part) : rule.length = part.length :=
  List.Forall₂.length_eq covers

/-- A rule without a star covers itself only. -/
theorem Covers.eq {rule part : List α} (covers : Covers star rule part) (bare : star ∉ rule) : rule = part := by
  induction covers with
  | nil => rfl
  | cons head _ ih =>
    rw [List.mem_cons, not_or] at bare
    rw [head.resolve_left (Ne.symm bare.1), ih bare.2]

theorem eq_of_suffixes {domain part other : List α} (ends : part <:+ domain) (also : other <:+ domain)
    (same : part.length = other.length) : part = other :=
  (List.suffix_of_suffix_length_le ends also same.le).eq_of_length same

theorem firstSuffix_eq_some {passes : List α → Bool} {domain part : List α} (found : firstSuffix passes domain = some part) :
    part <:+ domain ∧ part ≠ [] ∧ passes part = true ∧
      ∀ other, other <:+ domain → other ≠ [] → passes other = true → other.length ≤ part.length := by
  induction domain with
  | nil => cases found
  | cons label rest ih =>
    rw [firstSuffix] at found
    split at found
    · cases found
      exact ⟨List.suffix_rfl, List.cons_ne_nil _ _, ‹_›, fun other ends _ _ => ends.length_le⟩
    · rename_i fails
      obtain ⟨ends, some, passed, longest⟩ := ih found
      refine ⟨ends.trans (List.suffix_cons _ _), some, passed, fun other shorter nonempty passes => ?_⟩
      rcases List.suffix_cons_iff.mp shorter with rfl | shorter
      · exact absurd passes fails
      · exact longest other shorter nonempty passes

theorem firstSuffix_eq_none {passes : List α → Bool} {domain : List α} (none : firstSuffix passes domain = none) :
    ∀ part, part <:+ domain → part ≠ [] → ¬passes part = true := by
  induction domain with
  | nil =>
    intro part ends some
    exact absurd (List.suffix_nil.mp ends) some
  | cons label rest ih =>
    rw [firstSuffix] at none
    split at none
    · cases none
    · intro part ends some
      rcases List.suffix_cons_iff.mp ends with rfl | ends
      · assumption
      · exact ih none part ends some

theorem firstSuffix_congr {passes same : List α → Bool} {domain : List α}
    (alike : ∀ part, part <:+ domain → part ≠ [] → passes part = same part) :
    firstSuffix passes domain = firstSuffix same domain := by
  induction domain with
  | nil => rfl
  | cons label rest ih =>
    have later := ih fun part ends some => alike part (ends.trans (List.suffix_cons _ _)) some
    rw [firstSuffix, firstSuffix, later, alike _ List.suffix_rfl (List.cons_ne_nil _ _)]

theorem Matches.shorter {rule domain part other : List α} (matched : Matches star rule domain part) (ends : other <:+ domain)
    (fits : part.length ≤ other.length) : Matches star rule other part :=
  ⟨List.suffix_of_suffix_length_le matched.ends ends fits, matched.covers⟩

theorem Matches.longer {rule domain part other : List α} (matched : Matches star rule other part) (ends : other <:+ domain) :
    Matches star rule domain part :=
  ⟨matched.ends.trans ends, matched.covers⟩

theorem Governs.ends {rules exceptions : List (List α)} {domain suffix : List α}
    (governs : Governs star rules exceptions domain suffix) : suffix <:+ domain := by
  cases governs with
  | exception listed matched prevails same =>
    rw [same]
    exact (List.tail_suffix _).trans matched.ends
  | rule plain listed matched prevails => exact matched.ends
  | implicit plain unlisted ends one => exact ends

/-- What governs a domain governs all of its ends that are longer. -/
theorem Governs.shorter {rules exceptions : List (List α)} {domain suffix other : List α}
    (governs : Governs star rules exceptions domain suffix) (ends : other <:+ domain)
    (shorter : suffix.length < other.length) : Governs star rules exceptions other suffix := by
  have less {rule its : List α} (matched : Matches star rule other its) : Matches star rule domain its := matched.longer ends
  cases governs with
  | @exception _ part listed matched prevails same =>
    have fits : part.length ≤ other.length := by
      rw [same, List.length_tail] at shorter
      omega
    exact .exception listed (matched.shorter ends fits) (fun rule listed its matched => prevails rule listed its (less matched))
      same
  | rule plain listed matched prevails =>
    exact .rule (fun rule listed its matched => plain rule listed its (less matched)) listed
      (matched.shorter ends shorter.le) fun rule listed its matched => prevails rule listed its (less matched)
  | implicit plain unlisted last one =>
    exact .implicit (fun rule listed its matched => plain rule listed its (less matched))
      (fun rule listed its matched => unlisted rule listed its (less matched))
      (List.suffix_of_suffix_length_le last ends shorter.le) one

/-- No two suffixes govern a domain. -/
theorem Governs.unique {rules exceptions : List (List α)} {domain suffix other : List α}
    (governs : Governs star rules exceptions domain suffix) (also : Governs star rules exceptions domain other) :
    suffix = other := by
  cases governs with
  | exception listed matched prevails same =>
    cases also with
    | exception listed' matched' prevails' same' =>
      have even := Nat.le_antisymm (prevails' _ listed _ matched) (prevails _ listed' _ matched')
      rw [matched.covers.length, matched'.covers.length] at even
      rw [same, same', eq_of_suffixes matched.ends matched'.ends even]
    | rule plain => exact absurd matched (plain _ listed _)
    | implicit plain => exact absurd matched (plain _ listed _)
  | rule plain listed matched prevails =>
    cases also with
    | exception listed' matched' => exact absurd matched' (plain _ listed' _)
    | rule _ listed' matched' prevails' =>
      have even := Nat.le_antisymm (prevails' _ listed _ matched) (prevails _ listed' _ matched')
      rw [matched.covers.length, matched'.covers.length] at even
      exact eq_of_suffixes matched.ends matched'.ends even
    | implicit _ unlisted => exact absurd matched (unlisted _ listed _)
  | implicit plain unlisted ends one =>
    cases also with
    | exception listed' matched' => exact absurd matched' (plain _ listed' _)
    | rule _ listed' matched' => exact absurd matched' (unlisted _ listed' _)
    | implicit _ _ ends' one' => exact eq_of_suffixes ends ends' (one.trans one'.symm)

/-- Stars stand in front only, and no exception has one. -/
structure Placed (star : α) (rules exceptions : List (List α)) : Prop where
  rules : ∀ rule ∈ rules, rule ≠ [] ∧ star ∉ rule.tail
  exceptions : ∀ rule ∈ exceptions, rule ≠ [] ∧ star ∉ rule

section Scan
variable [DecidableEq α] {rules exceptions : List (List α)} {domain : List α}

/-- What a rule covers is listed, but for what a lone star covers. -/
theorem listed_of_covers {rule part : List α} (member : rule ∈ rules) (placed : star ∉ rule.tail)
    (covers : Covers star rule part) : listed star rules part = true ∨ rule.length ≤ 1 := by
  cases covers with
  | nil => exact Or.inr (Nat.zero_le 1)
  | @cons own label rest tail head later =>
    have same : rest = tail := Covers.eq later placed
    subst same
    rcases head with rfl | rfl
    · by_cases more : 1 < (label :: rest).length
      · exact Or.inl (decide_eq_true (Or.inr ⟨more, member⟩))
      · exact Or.inr (Nat.not_lt.mp more)
    · exact Or.inl (decide_eq_true (Or.inl member))

theorem covers_of_listed {part : List α} (found : listed star rules part = true) :
    ∃ rule ∈ rules, Covers star rule part := by
  rcases of_decide_eq_true found with member | ⟨more, member⟩
  · exact ⟨part, member, covers_self part⟩
  · cases part with
    | nil => cases more
    | cons label rest => exact ⟨_, member, .cons (Or.inl rfl) (covers_self rest)⟩

/-- The two scans find what governs the domain. -/
theorem governing_governs (placed : Placed star rules exceptions) (some : domain ≠ []) :
    Governs star rules exceptions domain (governing star rules exceptions domain) := by
  unfold governing
  rcases first : firstSuffix (named exceptions) domain with _ | part
  · -- no exception matches, for an exception matches itself only
    have plain : ∀ other ∈ exceptions, ∀ its, ¬Matches star other domain its := by
      intro other member its matched
      have same := matched.covers.eq (placed.exceptions other member).2
      have nonempty : its ≠ [] := same ▸ (placed.exceptions other member).1
      exact firstSuffix_eq_none first its matched.ends nonempty (decide_eq_true (same ▸ member))
    dsimp only
    rcases second : firstSuffix (listed star rules) domain with _ | part
    · have short (other : List α) (member : other ∈ rules) (its : List α) (matched : Matches star other domain its) :
          other.length ≤ 1 := by
        have nonempty : its ≠ [] := by
          rintro rfl
          exact (placed.rules other member).1 (List.length_eq_zero_iff.mp matched.covers.length)
        refine (listed_of_covers member (placed.rules other member).2 matched.covers).resolve_left ?_
        exact firstSuffix_eq_none second its matched.ends nonempty
      have last : domain.drop (domain.length - 1) <:+ domain := List.drop_suffix _ _
      have one : (domain.drop (domain.length - 1)).length = 1 := by
        have positive := List.length_pos_iff.mpr some
        rw [List.length_drop]
        omega
      by_cases unlisted : ∀ other ∈ rules, ∀ its, ¬Matches star other domain its
      · exact .implicit plain unlisted last one
      · -- only a lone star is left, and it covers the last label
        push Not at unlisted
        obtain ⟨other, member, its, matched⟩ := unlisted
        have length : its.length = 1 := by
          have least := List.length_pos_iff.mpr (placed.rules other member).1
          have most := short other member its matched
          rw [matched.covers.length] at least most
          omega
        rw [Option.getD_none, eq_of_suffixes last matched.ends (one.trans length.symm)]
        refine .rule plain member matched fun another listed its' matched' => ?_
        rw [matched.covers.length, length]
        exact short another listed its' matched'
    · obtain ⟨ends, nonempty, passes, longest⟩ := firstSuffix_eq_some second
      obtain ⟨rule, member, covers⟩ := covers_of_listed passes
      refine .rule plain member ⟨ends, covers⟩ fun other listed its matched => ?_
      rw [covers.length]
      rcases listed_of_covers listed (placed.rules other listed).2 matched.covers with found | short
      · by_cases none : its = []
        · rw [matched.covers.length, none]
          exact Nat.zero_le _
        · rw [matched.covers.length]
          exact longest its matched.ends none found
      · exact short.trans (List.length_pos_iff.mpr nonempty)
  · obtain ⟨ends, nonempty, passes, longest⟩ := firstSuffix_eq_some first
    refine .exception (of_decide_eq_true passes) ⟨ends, covers_self part⟩ (fun other listed its matched => ?_) rfl
    have same := matched.covers.eq (placed.exceptions other listed).2
    subst same
    exact longest other matched.ends (placed.exceptions other listed).1 (decide_eq_true listed)

end Scan

end BioAuth.SuffixRules
