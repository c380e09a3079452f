import BioAuth.Lib.BigEndian

namespace BioAuth

/-- The UTF-8 octets of a text, as `str::as_bytes` gives them. -/
def utf8 (text : String) : Bytes := text.toByteArray.data.toList

/-- The text a string of octets spells, as `str::from_utf8` gives it. -/
def fromUtf8 (bytes : Bytes) : Option String := String.fromUTF8? bytes.toByteArray

/-- The number of UTF-16 code units of a text. -/
def utf16Len (text : String) : Nat :=
  (text.toList.map fun c => if c.val.toNat < 0x10000 then 1 else 2).sum

/-- A check of each character of a text goes through the text, and not through all characters there are. -/
instance (priority := 2000) decidableBAllChars {p : Char → Prop} [DecidablePred p] {chars : List Char} :
    Decidable (∀ c ∈ chars, p c) :=
  List.decidableBAll p chars

/-- The UTF-16 code units of a text, by which Kotlin and Dart order texts. -/
def utf16 (text : String) : List Nat :=
  text.toList.flatMap fun c =>
    let code := c.val.toNat
    if code < 0x10000 then [code] else [0xd800 + (code - 0x10000) / 0x400, 0xdc00 + (code - 0x10000) % 0x400]

theorem toByteArray_utf8 (text : String) : (utf8 text).toByteArray = text.toByteArray := by
  apply ByteArray.ext
  simp [utf8]

theorem utf8_injective {a b : String} (same : utf8 a = utf8 b) : a = b := by
  apply String.toByteArray_inj.mp
  rw [← toByteArray_utf8, same, toByteArray_utf8]

/-- A string of octets spells at most one text, and each text has one spelling. -/
theorem fromUtf8_eq_some {bytes : Bytes} {text : String} :
    fromUtf8 bytes = some text ↔ bytes = utf8 text := by
  unfold fromUtf8 String.fromUTF8?
  constructor
  · intro decoded
    split at decoded
    · rename_i valid
      cases Option.some.inj decoded
      simp [utf8, String.fromUTF8]
    · simp at decoded
  · rintro rfl
    have valid : (utf8 text).toByteArray.IsValidUTF8 := by
      rw [toByteArray_utf8]
      exact text.isValidUTF8
    rw [dif_pos valid]
    congr 1
    apply String.toByteArray_inj.mp
    exact toByteArray_utf8 text

@[simp] theorem fromUtf8_utf8 (text : String) : fromUtf8 (utf8 text) = some text :=
  fromUtf8_eq_some.mpr rfl

theorem utf8_eq_flatMap (text : String) : utf8 text = text.toList.flatMap String.utf8EncodeChar := by
  unfold utf8
  rw [← String.utf8Encode_toList, List.utf8Encode]
  simp

/-- A code unit stands for at most three octets. -/
theorem utf8_length_le (text : String) : (utf8 text).length ≤ 3 * utf16Len text := by
  rw [utf8_eq_flatMap, utf16Len]
  induction text.toList with
  | nil => simp
  | cons c rest ih =>
    simp only [List.flatMap_cons, List.length_append, String.length_utf8EncodeChar, List.map_cons, List.sum_cons]
    have large := c.utf8Size_le_four
    have four : c.utf8Size = 4 → 0xffff < c.val.toNat := fun size => Char.utf8Size_eq_four_iff.mp size
    split <;> omega

theorem utf16Len_le_utf8 (text : String) : utf16Len text ≤ (utf8 text).length := by
  rw [utf8_eq_flatMap, utf16Len]
  induction text.toList with
  | nil => exact Nat.zero_le _
  | cons c rest ih =>
    simp only [List.flatMap_cons, List.length_append, String.length_utf8EncodeChar, List.map_cons, List.sum_cons]
    have positive := c.utf8Size_pos
    have large : 0xffff < c.val.toNat → c.utf8Size = 4 := fun big => Char.utf8Size_eq_four_iff.mpr big
    split <;> omega

/-- The code units of one character. -/
def charUnits (c : Char) : Nat := if c.val.toNat < 0x10000 then 1 else 2

theorem eq_of_append_eq_append {a b x y : List Char} (same : a ++ x = b ++ y)
    (size : (a.map charUnits).sum = (b.map charUnits).sum) : a = b ∧ x = y := by
  have positive (c : Char) : 0 < charUnits c := by
    unfold charUnits
    split <;> decide
  induction a generalizing b with
  | nil =>
    cases b with
    | nil => exact ⟨rfl, same⟩
    | cons c b =>
      rw [List.map_nil, List.sum_nil, List.map_cons, List.sum_cons] at size
      have one := positive c
      omega
  | cons c a ih =>
    cases b with
    | nil =>
      rw [List.map_nil, List.sum_nil, List.map_cons, List.sum_cons] at size
      have one := positive c
      omega
    | cons d b =>
      obtain ⟨rfl, rest⟩ := List.cons_eq_cons.mp same
      rw [List.map_cons, List.sum_cons, List.map_cons, List.sum_cons] at size
      obtain ⟨rfl, left⟩ := ih rest (by omega)
      exact ⟨rfl, left⟩

theorem eq_of_append_cons {a b x y : List Char} {mark : Char} (outA : mark ∉ a) (outB : mark ∉ b)
    (same : a ++ mark :: x = b ++ mark :: y) : a = b ∧ x = y := by
  induction a generalizing b with
  | nil =>
    cases b with
    | nil => exact ⟨rfl, (List.cons_eq_cons.mp same).2⟩
    | cons c b =>
      obtain ⟨rfl, _⟩ := List.cons_eq_cons.mp same
      exact absurd List.mem_cons_self outB
  | cons c a ih =>
    cases b with
    | nil =>
      obtain ⟨rfl, _⟩ := List.cons_eq_cons.mp same
      exact absurd List.mem_cons_self outA
    | cons d b =>
      obtain ⟨rfl, rest⟩ := List.cons_eq_cons.mp same
      obtain ⟨rfl, left⟩ := ih (fun member => outA (List.mem_cons_of_mem _ member))
        (fun member => outB (List.mem_cons_of_mem _ member)) rest
      exact ⟨rfl, left⟩

/-- A text behind its length. -/
def lengthPrefixed (value : String) : String := toString (utf16Len value) ++ ":" ++ value

def prefixedFields (values : List String) : String := String.join (values.map lengthPrefixed)

theorem toList_lengthPrefixed (value : String) :
    (lengthPrefixed value).toList = Nat.toDigits 10 (utf16Len value) ++ ':' :: value.toList := by
  rw [lengthPrefixed, String.toList_append, String.toList_append, Nat.toString_eq_ofList_toDigits, String.toList_ofList,
    List.append_assoc]
  rfl

theorem toList_prefixedFields (values : List String) :
    (prefixedFields values).toList = values.flatMap fun value => (lengthPrefixed value).toList := by
  unfold prefixedFields
  induction values with
  | nil => rfl
  | cons value values ih =>
    rw [List.map_cons, String.join_cons, String.toList_append, ih]
    rfl

/-- So many texts behind their lengths are read in one way only. -/
theorem prefixedFields_injective {values others : List String} (count : values.length = others.length)
    (same : prefixedFields values = prefixedFields others) : values = others := by
  have spelled := congrArg String.toList same
  rw [toList_prefixedFields, toList_prefixedFields] at spelled
  clear same
  induction values generalizing others with
  | nil => exact (List.length_eq_zero_iff.mp count.symm).symm
  | cons value values ih =>
    cases others with
    | nil => cases count
    | cons other others =>
      rw [List.flatMap_cons, List.flatMap_cons, toList_lengthPrefixed, toList_lengthPrefixed, List.append_assoc,
        List.append_assoc] at spelled
      have digits (n : Nat) : ':' ∉ Nat.toDigits 10 n := fun member =>
        absurd (Nat.isDigit_of_mem_toDigits (by decide) (by decide) member) (by decide)
      obtain ⟨number, rest⟩ := eq_of_append_cons (digits _) (digits _) spelled
      have size := congrArg (fun digits => Nat.ofDigitChars 10 digits 0) number
      rw [Nat.ofDigitChars_ten_toDigits, Nat.ofDigitChars_ten_toDigits] at size
      obtain ⟨text, left⟩ := eq_of_append_eq_append rest size
      rw [String.toList_inj.mp text, ih (Nat.succ.inj count) left]
end BioAuth
