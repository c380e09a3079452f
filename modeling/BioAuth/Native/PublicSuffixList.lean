import BioAuth.Lib.SuffixRules
import BioAuth.Native.BleController
import BioAuth.Native.WebAuthnRequestParser
import Mathlib.Data.List.DropRight

namespace BioAuth.Native
open BioAuth SuffixRules
open WebAuthnRequestParser (labels)

structure PublicSuffixList where
  rules : List String
  exceptions : List String

namespace PublicSuffixList

/-- `trim`. -/
def trim (raw : List Char) : List Char := (raw.dropWhile isWhitespace).rdropWhile isWhitespace

def substringBefore (delimiter : Char) (text : List Char) : List Char := text.takeWhile (· ≠ delimiter)

/-- `joinToString(".")`. -/
def joined (labels : List (List Char)) : String := String.ofList (['.'].intercalate labels)

section Lists
variable [Lowercase]

/-- One line. -/
def add (list : PublicSuffixList) (raw : String) : PublicSuffixList :=
  let line := trim raw.toList
  if line = [] ∨ ['/', '/'] <+: line then list
  else
    let rule := Lowercase.lowercase (String.ofList (substringBefore '\t' (substringBefore ' ' line)))
    match rule.toList with
    | [] => list
    | '!' :: exception => { list with exceptions := list.exceptions ++ [String.ofList exception] }
    | _ :: _ => { list with rules := list.rules ++ [rule] }

/-- The constructor. -/
def ofLines (lines : List String) : PublicSuffixList := lines.foldl add ⟨[], []⟩

def hostLabels (host : String) : List (List Char) := (labels (Lowercase.lowercase host).toList).filter (· ≠ [])

def publicSuffixOf (list : PublicSuffixList) (host : String) : String :=
  match firstSuffix (fun candidate => joined candidate ∈ list.exceptions) (hostLabels host) with
  | some candidate => joined (candidate.drop 1)
  | none =>
    match firstSuffix (fun candidate => joined candidate ∈ list.rules ∨
        1 < candidate.length ∧ joined (['*'] :: candidate.drop 1) ∈ list.rules) (hostLabels host) with
    | some candidate => joined candidate
    | none =>
      match (hostLabels host).getLast? with
      | some label => String.ofList label
      | none => ""

def isPublicSuffix (list : PublicSuffixList) (host : String) : Bool := list.publicSuffixOf host = host

end Lists

/-- `java.net.URI`, as far as it is looked at. -/
structure URI where
  scheme : Option String
  host : Option String
  rawPath : Option String
  rawQuery : Option String
  rawFragment : Option String
  userInfo : Option String

end PublicSuffixList

/-- The parser of `java.net.URI`, which throws where there is none. -/
class JavaNet where
  uri : String → Option PublicSuffixList.URI

/-- What is thrown of an origin. -/
inductive OriginFailure
  | illegalArgument (message : String)
  | uriSyntax
  deriving DecidableEq

namespace RpIdValidator
open PublicSuffixList
variable [Lowercase]

def requireRegistrableDomain (rpId : String) (publicSuffixes : PublicSuffixList) : Except OriginFailure Unit :=
  require (rpId ≠ "" ∧ ¬publicSuffixes.isPublicSuffix rpId)
    (.illegalArgument ("`" ++ rpId ++ "` is a public suffix, not a registrable domain"))

def requireOriginMatchesRpId [JavaNet] (origin rpId : String) (publicSuffixes : PublicSuffixList) :
    Except OriginFailure Unit := do
  requireRegistrableDomain rpId publicSuffixes
  let uri ← okOr .uriSyntax (JavaNet.uri origin)
  let host := uri.host.map Lowercase.lowercase
  let target := Lowercase.lowercase rpId
  require (uri.scheme = some "https" ∧ uri.rawPath.getD "" ∈ ["", "/"] ∧ uri.rawQuery = none ∧ uri.rawFragment = none ∧
      uri.userInfo = none ∧ host.any (fun host => host = target ∨ '.' :: target.toList <:+ host.toList))
    (.illegalArgument "Browser origin is not authorized for this relying party")

end RpIdValidator

/-- A host splits into labels without dots. -/
theorem dotless_labels (host : List Char) : ∀ label ∈ labels host, '.' ∉ label := by
  unfold labels
  induction host with
  | nil => simp
  | cons c rest ih =>
    rw [List.splitOn_cons_eq_if_modifyHead]
    split
    · rintro label (_ | ⟨_, later⟩)
      · exact List.not_mem_nil
      · exact ih label later
    · rename_i other
      obtain ⟨first, more, parts⟩ := List.exists_cons_of_ne_nil (List.splitOn_ne_nil '.' rest)
      rw [parts] at ih ⊢
      rintro label (_ | ⟨_, later⟩)
      · have apart : c ≠ '.' := by simpa using other
        rw [List.mem_cons, not_or]
        exact ⟨Ne.symm apart, ih first List.mem_cons_self⟩
      · exact ih label (List.mem_cons_of_mem _ later)

theorem labels_ne_nil (host : List Char) : labels host ≠ [] := List.splitOn_ne_nil '.' host

theorem length_labels (host : List Char) : (labels host).length = host.count '.' + 1 := by
  unfold labels
  induction host with
  | nil => rfl
  | cons c rest ih =>
    rw [List.splitOn_cons_eq_if_modifyHead, List.count_cons]
    split
    · rw [List.length_cons, ih]
    · rw [List.length_modifyHead, ih]

theorem intercalate_append {front back : List (List Char)} (some : front ≠ []) (more : back ≠ []) :
    ['.'].intercalate (front ++ back) = ['.'].intercalate front ++ '.' :: ['.'].intercalate back := by
  induction front with
  | nil => exact absurd rfl some
  | cons label rest ih =>
    rcases rest with _ | ⟨next, rest⟩
    · rw [List.singleton_append, List.intercalate_cons_of_ne_nil more, List.intercalate_singleton, List.append_assoc,
        List.singleton_append]
    · rw [List.cons_append, List.intercalate_cons_of_ne_nil (by simp), ih (List.cons_ne_nil _ _),
        List.intercalate_cons_of_ne_nil (List.cons_ne_nil _ _), List.append_assoc, List.append_assoc, List.append_assoc]

/-- A host ends in another at a dot where its labels end in those of the other. -/
theorem labels_suffix_iff {target host : List Char} :
    (host = target ∨ '.' :: target <:+ host) ↔ labels target <:+ labels host := by
  constructor
  · rintro (rfl | ⟨front, rfl⟩)
    · exact List.suffix_rfl
    · rw [labels, labels, List.splitOn_append_cons_self]
      exact List.suffix_append _ _
  · rintro ⟨front, parts⟩
    have whole : host = ['.'].intercalate (front ++ labels target) := by
      rw [parts, labels, List.intercalate_splitOn]
    have back : ['.'].intercalate (labels target) = target := by rw [labels, List.intercalate_splitOn]
    by_cases none : front = []
    · rw [none, List.nil_append, back] at whole
      exact Or.inl whole
    · rw [intercalate_append none (labels_ne_nil target), back] at whole
      exact Or.inr ⟨_, whole.symm⟩

namespace PublicSuffixList

theorem labels_joined {parts : List (List Char)} (dotless : ∀ part ∈ parts, '.' ∉ part) (some : parts ≠ []) :
    labels (joined parts).toList = parts := by
  rw [labels, joined, String.toList_ofList, List.splitOn_intercalate '.' dotless some]

theorem joined_labels (text : String) : joined (labels text.toList) = text := by
  rw [joined, labels, List.intercalate_splitOn, String.ofList_toList]

/-- The entries of a set, by their labels. -/
def labelled (entries : List String) : List (List (List Char)) := entries.map fun entry => labels entry.toList

theorem joined_mem {parts : List (List Char)} {entries : List String} (dotless : ∀ part ∈ parts, '.' ∉ part)
    (some : parts ≠ []) : joined parts ∈ entries ↔ parts ∈ labelled entries := by
  rw [labelled, List.mem_map]
  constructor
  · intro member
    exact ⟨_, member, labels_joined dotless some⟩
  · rintro ⟨entry, member, rfl⟩
    rwa [joined_labels]

/-- Wildcards stand first in their rules, and in no exception. -/
structure StarsLead (list : PublicSuffixList) : Prop where
  rules : ∀ rule ∈ labelled list.rules, ['*'] ∉ rule.tail
  exceptions : ∀ rule ∈ labelled list.exceptions, ['*'] ∉ rule

instance (list : PublicSuffixList) : Decidable list.StarsLead :=
  decidable_of_iff ((∀ rule ∈ labelled list.rules, ['*'] ∉ rule.tail) ∧ ∀ rule ∈ labelled list.exceptions, ['*'] ∉ rule)
    ⟨fun both => ⟨both.1, both.2⟩, fun lead => ⟨lead.rules, lead.exceptions⟩⟩

theorem StarsLead.placed {list : PublicSuffixList} (lead : list.StarsLead) :
    Placed ['*'] (labelled list.rules) (labelled list.exceptions) := by
  have whole {entries : List String} {rule : List (List Char)} (member : rule ∈ labelled entries) : rule ≠ [] := by
    obtain ⟨entry, _, rfl⟩ := List.mem_map.mp member
    exact labels_ne_nil _
  exact ⟨fun rule member => ⟨whole member, lead.rules rule member⟩,
    fun rule member => ⟨whole member, lead.exceptions rule member⟩⟩

/-- A suffix governs a domain by a list. -/
def Governs (list : PublicSuffixList) (domain suffix : List (List Char)) : Prop :=
  SuffixRules.Governs ['*'] (labelled list.rules) (labelled list.exceptions) domain suffix

section Lists
variable [Lowercase] {list : PublicSuffixList}

theorem hostLabels_dotless (host : String) : ∀ label ∈ hostLabels host, '.' ∉ label :=
  fun label member => dotless_labels _ label (List.mem_of_mem_filter member)

theorem publicSuffixOf_eq (list : PublicSuffixList) (host : String) : list.publicSuffixOf host =
    joined (governing ['*'] (labelled list.rules) (labelled list.exceptions) (hostLabels host)) := by
  have dotless {part : List (List Char)} (ends : part <:+ hostLabels host) : ∀ label ∈ part, '.' ∉ label :=
    fun label member => hostLabels_dotless host label (ends.subset member)
  have exceptions : firstSuffix (fun candidate => decide (joined candidate ∈ list.exceptions)) (hostLabels host) =
      firstSuffix (named (labelled list.exceptions)) (hostLabels host) :=
    firstSuffix_congr fun part ends some => decide_eq_decide.mpr (joined_mem (dotless ends) some)
  have rules : firstSuffix (fun candidate => decide (joined candidate ∈ list.rules ∨
        1 < candidate.length ∧ joined (['*'] :: candidate.drop 1) ∈ list.rules)) (hostLabels host) =
      firstSuffix (listed ['*'] (labelled list.rules)) (hostLabels host) := by
    refine firstSuffix_congr fun part ends some => decide_eq_decide.mpr ?_
    have wild : ∀ label ∈ ['*'] :: part.drop 1, '.' ∉ label := by
      rintro label (_ | ⟨_, later⟩)
      · decide
      · exact dotless ends label (List.mem_of_mem_drop later)
    rw [joined_mem (dotless ends) some, joined_mem wild (List.cons_ne_nil _ _), List.drop_one]
  unfold publicSuffixOf governing
  rw [exceptions, rules]
  cases firstSuffix (named (labelled list.exceptions)) (hostLabels host) with
  | some part => exact congrArg joined (List.drop_one)
  | none =>
    cases firstSuffix (listed ['*'] (labelled list.rules)) (hostLabels host) with
    | some part => rfl
    | none =>
      rcases List.eq_nil_or_concat (hostLabels host) with none | ⟨front, label, parts⟩
      · rw [none]
        rfl
      · simp [parts, joined]

/-- The public suffix of a host is what governs its labels, by the rules of the list. -/
theorem publicSuffixOf_governs (lead : list.StarsLead) {host : String} (some : hostLabels host ≠ []) :
    (∃ suffix, list.Governs (hostLabels host) suffix) ∧
      ∀ suffix, list.Governs (hostLabels host) suffix → list.publicSuffixOf host = joined suffix := by
  have governs := governing_governs lead.placed some
  refine ⟨⟨_, governs⟩, fun suffix also => ?_⟩
  rw [publicSuffixOf_eq, governs.unique also]

omit [Lowercase] in
example :
    letI : Lowercase := ⟨String.toLower⟩
    let list := ofLines ["// Islands", "*.ck ", "!www.ck"]
    list.publicSuffixOf "a.b.ck" = "b.ck" ∧ list.publicSuffixOf "www.ck" = "ck" ∧ list.publicSuffixOf "a.com" = "com" := by
  decide +kernel

/-- A host is found to be a public suffix where it is spelled as its labels are, and these govern themselves. -/
theorem isPublicSuffix_iff (lead : list.StarsLead)
    (dots : ∀ text, (Lowercase.lowercase text).toList.count '.' = text.toList.count '.') {host : String} (some : host ≠ "") :
    list.isPublicSuffix host = true ↔
      joined (hostLabels host) = host ∧ list.Governs (hostLabels host) (hostLabels host) := by
  rw [isPublicSuffix, decide_eq_true_iff]
  constructor
  · intro itself
    have whole : hostLabels host ≠ [] := by
      intro none
      rw [publicSuffixOf_eq, none] at itself
      exact some itself.symm
    obtain ⟨⟨suffix, governs⟩, only⟩ := publicSuffixOf_governs lead whole
    rw [only suffix governs] at itself
    have dotless : ∀ label ∈ suffix, '.' ∉ label := fun label member =>
      hostLabels_dotless host label (governs.ends.subset member)
    have nonempty : suffix ≠ [] := by
      rintro rfl
      exact some itself.symm
    -- There are as many dots in the host as in its lowercase, so no label is empty or left out.
    have count : suffix.length = (labels (Lowercase.lowercase host).toList).length := by
      rw [length_labels, dots, ← length_labels, ← itself, labels_joined dotless nonempty]
    have few : (hostLabels host).length ≤ (labels (Lowercase.lowercase host).toList).length := List.length_filter_le _ _
    have same : suffix = hostLabels host := governs.ends.eq_of_length_le (count ▸ few)
    exact ⟨same ▸ itself, same ▸ governs⟩
  · rintro ⟨spelled, governs⟩
    have whole : hostLabels host ≠ [] := by
      intro none
      rw [none] at spelled
      exact some spelled.symm
    rw [(publicSuffixOf_governs lead whole).2 _ governs, spelled]

/-- By the algorithm of the list, over its rules in ASCII. -/
def PublicSuffix (list : PublicSuffixList) (toASCII : List Char → List Char) (host : String) : Prop :=
  SuffixRules.Governs ['*'] ((labelled list.rules).map (List.map toASCII)) ((labelled list.exceptions).map (List.map toASCII))
    ((labels host.toList).filter (· ≠ [])) ((labels host.toList).filter (· ≠ []))

end Lists
end PublicSuffixList

namespace RpIdValidator
open PublicSuffixList
variable [Lowercase] [JavaNet] {list : PublicSuffixList}

/-- The host that a bare https origin is of. -/
def Hosts (origin host : String) : Prop :=
  ∃ uri : URI, JavaNet.uri origin = some uri ∧ uri.scheme = some "https" ∧ uri.rawPath.getD "" ∈ ["", "/"] ∧
    uri.rawQuery = none ∧ uri.rawFragment = none ∧ uri.userInfo = none ∧ uri.host = some host

theorem requireOriginMatchesRpId_eq_ok {origin rpId : String} :
    requireOriginMatchesRpId origin rpId list = .ok () ↔ (rpId ≠ "" ∧ ¬list.isPublicSuffix rpId = true) ∧
      ∃ host, Hosts origin host ∧
        labels (Lowercase.lowercase rpId).toList <:+ labels (Lowercase.lowercase host).toList := by
  unfold requireOriginMatchesRpId requireRegistrableDomain Hosts
  simp only [except_bind_eq_ok, except_require_eq_ok, okOr_eq_ok, exists_const]
  refine and_congr_right fun _ => ?_
  constructor
  · rintro ⟨uri, parsed, scheme, path, query, fragment, user, ends⟩
    obtain ⟨_, given, ends⟩ := (Option.any_eq_true _ _).mp ends
    obtain ⟨host, named, rfl⟩ := Option.map_eq_some_iff.mp given
    refine ⟨host, ⟨uri, parsed, scheme, path, query, fragment, user, named⟩, labels_suffix_iff.mp ?_⟩
    exact (of_decide_eq_true ends).imp_left (congrArg String.toList)
  · rintro ⟨host, ⟨uri, parsed, scheme, path, query, fragment, user, named⟩, ends⟩
    refine ⟨uri, parsed, scheme, path, query, fragment, user, (Option.any_eq_true _ _).mpr ⟨Lowercase.lowercase host, ?_, ?_⟩⟩
    · rw [named]
      rfl
    · exact decide_eq_true ((labels_suffix_iff.mpr ends).imp_left String.toList_inj.mp)

/-- A name by the grammar of hosts, which is no address, with or without the dot of the root. -/
def DomainName (host : List Char) : Prop :=
  ∃ names top, (labels host = names ++ [top] ∨ labels host = names ++ [top, []]) ∧
    (∀ name ∈ names ++ [top], name ≠ [] ∧ (∀ c ∈ name, c.isAlphanum ∨ c = '-') ∧ name.head? ≠ some '-' ∧
      name.getLast? ≠ some '-') ∧ ∃ c, top.head? = some c ∧ c.isAlpha

/-- A host is the other one or under it, whatever the case. -/
def Under (host other : String) : Prop :=
  Lowercase.lowercase host = Lowercase.lowercase other ∨
    '.' :: (Lowercase.lowercase other).toList <:+ (Lowercase.lowercase host).toList

/-- An origin that is let through is https, its host is a domain name under the RP ID, and the RP ID is no public suffix. -/
def Scoped (list : PublicSuffixList) (toASCII : List Char → List Char) (origin rpId : String) : Prop :=
  requireOriginMatchesRpId origin rpId list = .ok () →
    ∃ uri host, JavaNet.uri origin = some uri ∧ uri.scheme = some "https" ∧ uri.host = some host ∧
      DomainName host.toList ∧ Under host rpId ∧ ¬list.PublicSuffix toASCII (Lowercase.lowercase rpId)

omit [Lowercase] [JavaNet] in
theorem count_toLower (text : String) : text.toLower.toList.count '.' = text.toList.count '.' := by
  have dot (c : Char) : c.toLower = '.' ↔ c = '.' := by
    unfold Char.toLower
    split
    · rename_i upper
      have low : 65 ≤ c.val.toNat := UInt32.le_iff_toNat_le.mp upper.1
      have high : c.val.toNat ≤ 90 := UInt32.le_iff_toNat_le.mp upper.2
      have shifted : (c.val + ('a'.val - 'A'.val)).toNat = c.val.toNat + 32 := by
        rw [UInt32.toNat_add]
        exact Nat.mod_eq_of_lt (by change c.val.toNat + 32 < 2 ^ 32; omega)
      rw [Char.ext_iff, Char.ext_iff, ← UInt32.toNat_inj, ← UInt32.toNat_inj, shifted]
      change c.val.toNat + 32 = 46 ↔ c.val.toNat = 46
      omega
    · exact Iff.rfl
  change (text.map Char.toLower).toList.count '.' = _
  rw [String.toList_map, List.count_eq_countP, List.countP_map, List.count_eq_countP]
  refine List.countP_congr fun c _ => ?_
  simp [dot]

/-- The URI of a bare https origin. -/
def bareUri (origin : String) : Option URI :=
  if "https://".toList <+: origin.toList then
    some ⟨some "https", some (String.ofList (origin.toList.drop 8)), some "", none, none, none⟩
  else none

/-- The names of the companies under `cn`, in ASCII. -/
def companies (label : List Char) : List Char := if label = "公司".toList then "xn--55qx5d".toList else label

omit [Lowercase] [JavaNet] in
theorem companies_public : PublicSuffix ⟨["cn", "公司.cn"], []⟩ companies "xn--55qx5d.cn" := by
  have parts : (labels "xn--55qx5d.cn".toList).filter (· ≠ []) = ["xn--55qx5d".toList, "cn".toList] := by decide +kernel
  have listed : ["xn--55qx5d".toList, "cn".toList] ∈ (labelled ["cn", "公司.cn"]).map (List.map companies) := by
    decide +kernel
  have short : ∀ other ∈ (labelled ["cn", "公司.cn"]).map (List.map companies), other.length ≤ 2 := by decide +kernel
  rw [PublicSuffix, parts]
  exact .rule (fun _ none => absurd none List.not_mem_nil) listed ⟨List.suffix_rfl, covers_self _⟩
    fun other listed _ _ => short other listed

/-- An origin that may use an RP ID is under the public suffix that the RP ID is under, or the RP ID is the end of the public
suffix that the origin is under. -/
theorem accepted_shares_suffix (lead : list.StarsLead) {origin rpId : String}
    (accepted : requireOriginMatchesRpId origin rpId list = .ok ()) :
    ∃ host, Hosts origin host ∧ (list.publicSuffixOf host = list.publicSuffixOf rpId ∨
      hostLabels rpId <:+ labels (list.publicSuffixOf host).toList) := by
  obtain ⟨_, host, hosts, ends⟩ := requireOriginMatchesRpId_eq_ok.mp accepted
  refine ⟨host, hosts, ?_⟩
  by_cases none : hostLabels rpId = []
  · rw [none]
    exact Or.inr List.nil_suffix
  have under : hostLabels rpId <:+ hostLabels host := ends.filter _
  have whole : hostLabels host ≠ [] := fun empty => none (List.suffix_nil.mp (empty ▸ under))
  obtain ⟨⟨suffix, governs⟩, only⟩ := publicSuffixOf_governs lead whole
  rw [only suffix governs]
  rcases Nat.lt_or_ge suffix.length (hostLabels rpId).length with shorter | longer
  · exact Or.inl ((publicSuffixOf_governs lead none).2 suffix (governs.shorter under shorter)).symm
  · have within := List.suffix_of_suffix_length_le under governs.ends longer
    have nonempty : suffix ≠ [] := by
      rintro rfl
      exact none (List.suffix_nil.mp within)
    have dotless : ∀ label ∈ suffix, '.' ∉ label := fun label member =>
      hostLabels_dotless host label (governs.ends.subset member)
    rw [labels_joined dotless nonempty]
    exact Or.inr within

def buckets : PublicSuffixList := ⟨["com", "s3.aws.com"], []⟩

omit [Lowercase] [JavaNet] in
/-- Whoever has a bucket may use the RP ID that all buckets are under. -/
theorem accepted_shares_suffix_bucket :
    letI : Lowercase := ⟨String.toLower⟩
    letI : JavaNet := ⟨bareUri⟩
    (∃ host, Hosts "https://b.s3.aws.com" host ∧ (buckets.publicSuffixOf host = buckets.publicSuffixOf "aws.com" ∨
      hostLabels "aws.com" <:+ labels (buckets.publicSuffixOf host).toList)) ∧
        buckets.publicSuffixOf "b.s3.aws.com" = "s3.aws.com" := by
  let : Lowercase := ⟨String.toLower⟩
  let : JavaNet := ⟨bareUri⟩
  have lead : buckets.StarsLead := by decide +kernel
  have accepted : requireOriginMatchesRpId "https://b.s3.aws.com" "aws.com" buckets = .ok () := by decide +kernel
  exact ⟨accepted_shares_suffix lead accepted, by decide +kernel⟩

end RpIdValidator

end BioAuth.Native
