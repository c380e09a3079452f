import BioAuth.Locker.RecoveryCode
import Mathlib.Data.List.GetD

namespace BioAuth.Locker
open BioAuth Regroup

/-- The character of a base-32 digit. -/
def glyph (digit : Nat) : UInt8 := alphabet.getD digit 0

/-- The writer after these digits. -/
def written (digits : List Nat) : Written := digits.foldl push (codePrefix.toList, 0)

/-- What the alphabet gives for each digit. -/
theorem glyphs : ∀ digit < 32, glyph digit ∈ alphabet ∧ alphabet.idxOf (glyph digit) = digit ∧
    toAsciiUppercase (glyph digit) = glyph digit ∧ kept (Char.ofUInt8 (glyph digit)) ∧
    String.utf8EncodeChar (Char.ofUInt8 (glyph digit)) = [glyph digit] := by
  decide +kernel

theorem glyph_mem {digit : Nat} (small : digit < 32) : glyph digit ∈ alphabet := (glyphs digit small).1

theorem idxOf_glyph {digit : Nat} (small : digit < 32) : alphabet.idxOf (glyph digit) = digit :=
  (glyphs digit small).2.1

theorem uppercase_glyph {digit : Nat} (small : digit < 32) : toAsciiUppercase (glyph digit) = glyph digit :=
  (glyphs digit small).2.2.1

theorem kept_glyph {digit : Nat} (small : digit < 32) : kept (Char.ofUInt8 (glyph digit)) :=
  (glyphs digit small).2.2.2.1

theorem encode_glyph {digit : Nat} (small : digit < 32) :
    String.utf8EncodeChar (Char.ofUInt8 (glyph digit)) = [glyph digit] :=
  (glyphs digit small).2.2.2.2

theorem written_concat (digits : List Nat) (digit : Nat) :
    written (digits ++ [digit]) = push (written digits) digit := by
  simp [written]

theorem filter_push {out : Written} {digit : Nat} (small : digit < 32) :
    (push out digit).1.filter kept = out.1.filter kept ++ [Char.ofUInt8 (glyph digit)] := by
  have dash : kept '-' = false := by decide +kernel
  have writes : (push out digit).1 =
      (if out.2 % group = 0 then out.1 ++ ['-'] else out.1) ++ [Char.ofUInt8 (glyph digit)] := rfl
  rw [writes]
  split <;> simp [dash, kept_glyph small]

/-- Cleaning what was written leaves the prefix and one octet for each digit. -/
theorem cleaned_written {digits : List Nat} (small : ∀ digit ∈ digits, digit < 32) :
    cleaned (String.ofList (written digits).1) = utf8 codePrefix ++ digits.map glyph := by
  have filtered : (written digits).1.filter kept =
      codePrefix.toList ++ digits.map fun digit => Char.ofUInt8 (glyph digit) := by
    induction digits using List.reverseRecOn with
    | nil => decide +kernel
    | append_singleton digits digit ih =>
      rw [List.forall_mem_append] at small
      rw [written_concat, filter_push (small.2 digit (List.mem_singleton_self _)), ih small.1, List.map_append,
        List.append_assoc]
      rfl
  have cleans : cleaned (String.ofList (written digits).1) =
      (((written digits).1.filter kept).flatMap String.utf8EncodeChar).map toAsciiUppercase := by
    unfold cleaned
    rw [utf8_eq_flatMap, String.toList_ofList, String.toList_ofList]
  have fixed : (codePrefix.toList.flatMap String.utf8EncodeChar).map toAsciiUppercase = utf8 codePrefix := by
    decide +kernel
  rw [cleans, filtered, List.flatMap_append, List.map_append, fixed]
  congr 1
  clear filtered cleans
  induction digits with
  | nil => rfl
  | cons digit digits ih =>
    rw [List.forall_mem_cons] at small
    simp [encode_glyph small.1, uppercase_glyph small.1, ih small.2]

theorem drain_written {whole : Nat} {accumulator : UInt32} {bits : Nat} {digits : List Nat}
    (emitted : Emitted 5 whole accumulator bits digits) (room : bits < 32) :
    ∃ left more, drain accumulator bits (written digits) = (left, written more) ∧ left < 5 ∧
      Emitted 5 whole accumulator left more ∧ 5 * more.length + left = 5 * digits.length + bits := by
  induction bits using Nat.strongRecOn generalizing digits with
  | _ bits ih =>
    by_cases enough : 5 ≤ bits
    · obtain ⟨bits, rfl⟩ := Nat.exists_eq_add_of_le' enough
      obtain ⟨left, more, same, few, last, count⟩ := ih bits (by omega) (emitted.push (by omega)) (by omega)
      rw [List.length_append, List.length_singleton] at count
      rw [written_concat] at same
      exact ⟨left, more, by rw [drain]; exact same, few, last, by omega⟩
    · have stops : drain accumulator bits (written digits) = (bits, written digits) := by
        unfold drain
        split
        · omega
        · rfl
      exact ⟨bits, digits, stops, by omega, emitted, rfl⟩

theorem formatBytes_emitted (bytes : Bytes) :
    ∃ accumulator bits digits, bytes.foldl formatByte (0, 0, codePrefix.toList, 0) = (accumulator, bits, written digits) ∧
      bits < 5 ∧ Emitted 5 (BigEndian.decode bytes) accumulator bits digits ∧
      8 * bytes.length = 5 * digits.length + bits := by
  induction bytes using List.reverseRecOn with
  | nil => exact ⟨0, 0, [], rfl, by decide, Emitted.start 5, rfl⟩
  | append_singleton bytes byte ih =>
    obtain ⟨accumulator, bits, digits, run, few, emitted, count⟩ := ih
    obtain ⟨left, more, same, fewer, last, total⟩ := drain_written (emitted.feed (by omega) byte) (by omega)
    refine ⟨accumulator <<< 8 ||| byte.toUInt32, left, more, ?_, fewer, ?_, ?_⟩
    · rw [List.foldl_append, run, List.foldl_cons, List.foldl_nil]
      exact congrArg (Prod.mk _) same
    · rw [BigEndian.decode_concat]
      exact last
    · rw [List.length_append, List.length_singleton]
      omega

/-- A code is the prefix and the 52 digits of sixteen times its key. -/
theorem formatRecoveryCode_digits (key : RecoveryKey) :
    ∃ digits : List Nat, formatRecoveryCode key = String.ofList (written digits).1 ∧ digits.length = 52 ∧
      (∀ digit ∈ digits, digit < 32) ∧ Nat.ofDigits 32 digits.reverse = 16 * BigEndian.decode key.val := by
  obtain ⟨accumulator, bits, digits, run, few, emitted, count⟩ := formatBytes_emitted key.val
  rw [key.property] at count
  obtain rfl : bits = 1 := by omega
  obtain ⟨small, value⟩ := emitted.pad (by decide) (by decide)
  refine ⟨digits ++ [(accumulator <<< UInt32.ofNat 4).toNat &&& 31], ?_, ?_, ?_, value⟩
  · rw [written_concat]
    simp only [formatRecoveryCode, run, Nat.lt_one_iff, Nat.succ_sub_one, if_true]
  · rw [List.length_append, List.length_singleton]
    omega
  · simp only [List.mem_append, List.mem_singleton]
    rintro digit (member | rfl)
    · exact emitted.small digit member
    · exact small

theorem parseByte_glyph (state : UInt32 × Nat × Bytes) {digit : Nat} (small : digit < 32) :
    parseByte state (glyph digit) = .ok (collect 5 state digit) := by
  obtain ⟨accumulator, bits, bytes⟩ := state
  have known : glyph digit ∈ alphabet := glyph_mem small
  unfold parseByte collect
  simp only [idxOf_glyph small, require, if_pos known]
  by_cases enough : 8 ≤ bits + 5
  · rw [if_pos enough, if_pos enough]
    rfl
  · rw [if_neg enough, if_neg enough]
    rfl

theorem parseBytes_glyphs {digits : List Nat} (small : ∀ digit ∈ digits, digit < 32) (state : UInt32 × Nat × Bytes) :
    (digits.map glyph).foldlM parseByte state = .ok (digits.foldl (collect 5) state) := by
  induction digits generalizing state with
  | nil => rfl
  | cons digit digits ih =>
    rw [List.forall_mem_cons] at small
    rw [List.map_cons, List.foldlM_cons, parseByte_glyph state small.1]
    exact ih small.2 _

/-- A recovery code is read back as the key it was written for. -/
theorem parseRecoveryCode_format (key : RecoveryKey) : parseRecoveryCode (formatRecoveryCode key) = .ok key := by
  obtain ⟨digits, spelled, length, small, value⟩ := formatRecoveryCode_digits key
  have padded : Nat.ofDigits (2 ^ 5) digits.reverse = 2 ^ 4 * BigEndian.decode key.val := value
  obtain ⟨collected, count⟩ := collected_digits 5 (by decide) small
  have run := parseBytes_glyphs small (0, 0, [])
  generalize digits.foldl (collect 5) (0, 0, []) = state at collected count run
  obtain ⟨accumulator, bits, bytes⟩ := state
  obtain ⟨rfl, rfl, padding⟩ := collected.octets padded (by decide) (by rw [count, length, key.property])
  have body : (utf8 codePrefix ++ digits.map glyph).drop (utf8 codePrefix).length = digits.map glyph :=
    List.drop_left
  simp only [parseRecoveryCode, spelled, cleaned_written small, body, require, List.prefix_append, List.length_map,
    length, if_true, except_bind_eq_ok, except_pure_eq_ok, exists_const, true_and]
  refine ⟨_, run, ?_⟩
  dsimp only
  rw [dif_pos ⟨key.property, padding⟩]
  rfl

/-- The body of a code: a letter for each of 52 digits, of which the last leaves its low bits blank. -/
structure BodySpelled (body : Bytes) : Prop where
  length : body.length = 52
  known : ∀ letter ∈ body, letter ∈ alphabet
  blank : 16 ∣ (body.getLast?.map alphabet.idxOf).getD 0

theorem glyph_idxOf {letter : UInt8} (known : letter ∈ alphabet) : glyph (alphabet.idxOf letter) = letter := by
  have inside := List.idxOf_lt_length_of_mem known
  rw [glyph, List.getD_eq_getElem _ _ inside, List.getElem_idxOf]

theorem letters_small {body : Bytes} (known : ∀ letter ∈ body, letter ∈ alphabet) :
    ∀ digit ∈ body.map alphabet.idxOf, digit < 32 := by
  have size : alphabet.length = 32 := by decide +kernel
  intro digit member
  obtain ⟨letter, inside, rfl⟩ := List.mem_map.mp member
  have bound := List.idxOf_lt_length_of_mem (known letter inside)
  rwa [size] at bound

theorem map_glyph_idxOf {body : Bytes} (known : ∀ letter ∈ body, letter ∈ alphabet) :
    (body.map alphabet.idxOf).map glyph = body := by
  rw [List.map_map]
  exact (List.map_congr_left fun letter member => glyph_idxOf (known letter member)).trans (List.map_id' body)

/-- Letters are read digit by digit when the alphabet has them all. -/
theorem parseByte_run {body : Bytes} {state : UInt32 × Nat × Bytes} :
    body.foldlM parseByte (0, 0, []) = .ok state ↔
      (∀ letter ∈ body, letter ∈ alphabet) ∧ state = (body.map alphabet.idxOf).foldl (collect 5) (0, 0, []) := by
  constructor
  · intro run
    have known : ∀ letter ∈ body, letter ∈ alphabet := by
      generalize ((0, 0, []) : UInt32 × Nat × Bytes) = start at run
      induction body generalizing start with
      | nil => exact nofun
      | cons letter body ih =>
        rw [List.foldlM_cons, except_bind_eq_ok] at run
        obtain ⟨next, step, rest⟩ := run
        unfold parseByte at step
        simp only [except_bind_eq_ok, except_require_eq_ok] at step
        obtain ⟨_, first, _⟩ := step
        exact List.forall_mem_cons.mpr ⟨first, ih next rest⟩
    refine ⟨known, ?_⟩
    have same := parseBytes_glyphs (letters_small known) (0, 0, [])
    rw [map_glyph_idxOf known, run] at same
    exact Except.ok.inj same
  · rintro ⟨known, rfl⟩
    have run := parseBytes_glyphs (letters_small known) (0, 0, [])
    rwa [map_glyph_idxOf known] at run

/-- The number the letters of a body spell. -/
def bodyNumber (body : Bytes) : Nat := Nat.ofDigits 32 (body.map alphabet.idxOf).reverse

/-- The last letter alone decides whether the bits left over are blank. -/
theorem bodyNumber_blank (body : Bytes) :
    16 ∣ (body.getLast?.map alphabet.idxOf).getD 0 ↔ 16 ∣ bodyNumber body := by
  rcases List.eq_nil_or_concat' body with rfl | ⟨front, letter, rfl⟩
  · exact Iff.rfl
  · have number : bodyNumber (front ++ [letter]) = 32 * bodyNumber front + alphabet.idxOf letter := by
      rw [bodyNumber, List.map_append, List.map_singleton, ofDigits_concat, bodyNumber]
    rw [List.getLast?_concat, Option.map_some, Option.getD_some]
    omega

/-- What is read off a code is the number its body spells, without the bits left over. -/
theorem parseRecoveryCode_eq_ok {code : String} {key : RecoveryKey} :
    parseRecoveryCode code = .ok key ↔
      ∃ body, cleaned code = utf8 codePrefix ++ body ∧ BodySpelled body ∧
        16 * BigEndian.decode key.val = bodyNumber body := by
  have read : parseRecoveryCode code = .ok key ↔
      ∃ body, cleaned code = utf8 codePrefix ++ body ∧ body.length = 52 ∧ (∀ letter ∈ body, letter ∈ alphabet) ∧
        ∃ accumulator bits, (accumulator, bits, key.val) = (body.map alphabet.idxOf).foldl (collect 5) (0, 0, []) ∧
          accumulator &&& ((1 <<< UInt32.ofNat bits) - 1) = 0 := by
    unfold parseRecoveryCode
    simp only [except_bind_eq_ok, except_require_eq_ok, exists_const, Prod.exists, parseByte_run]
    constructor
    · rintro ⟨⟨body, split⟩, whole, accumulator, bits, bytes, ⟨known, run⟩, finished⟩
      rw [← split, List.drop_left] at whole known run
      split at finished
      · rename_i padded
        cases finished
        exact ⟨body, split.symm, whole, known, accumulator, bits, run, padded.2⟩
      · cases finished
    · rintro ⟨body, split, whole, known, accumulator, bits, run, blank⟩
      rw [split, List.drop_left]
      refine ⟨List.prefix_append _ _, whole, accumulator, bits, key.val, ⟨known, run⟩, ?_⟩
      rw [dif_pos ⟨key.property, blank⟩]
      rfl
  rw [read]
  refine exists_congr fun body => and_congr_right fun _ => ⟨?_, ?_⟩
  · rintro ⟨whole, known, accumulator, bits, run, blank⟩
    obtain ⟨⟨few, held, octets⟩, count⟩ := collected_digits 5 (by decide) (letters_small known)
    rw [← run, show 2 ^ 5 = 32 from rfl, ← bodyNumber] at held octets
    rw [← run, List.length_map, whole, key.property] at count
    dsimp only at few held octets count
    obtain rfl : bits = 4 := by omega
    have divides : 16 ∣ bodyNumber body := (Holds.masked held (by decide)).mp blank
    exact ⟨⟨whole, known, (bodyNumber_blank body).mpr divides⟩, by rw [octets]; omega⟩
  · rintro ⟨⟨whole, known, last⟩, value⟩
    have padded : Nat.ofDigits (2 ^ 5) (body.map alphabet.idxOf).reverse = 2 ^ 4 * BigEndian.decode key.val :=
      value.symm
    obtain ⟨collected, count⟩ := collected_digits 5 (by decide) (letters_small known)
    generalize (body.map alphabet.idxOf).foldl (collect 5) (0, 0, []) = state at collected count ⊢
    obtain ⟨accumulator, bits, bytes⟩ := state
    obtain ⟨rfl, rfl, blank⟩ := collected.octets padded (by decide)
      (by rw [count, List.length_map, whole, key.property])
    exact ⟨whole, known, accumulator, 4, rfl, blank⟩

/-- What a code is written as is the prefix and the body that spells its key. -/
theorem cleaned_format (key : RecoveryKey) :
    ∃ body, cleaned (formatRecoveryCode key) = utf8 codePrefix ++ body ∧ BodySpelled body ∧
      16 * BigEndian.decode key.val = bodyNumber body :=
  parseRecoveryCode_eq_ok.mp (parseRecoveryCode_format key)

/-- A key has one body. -/
theorem body_unique {body other : Bytes} (spelled : BodySpelled body) (also : BodySpelled other)
    (same : bodyNumber body = bodyNumber other) : body = other := by
  have digits : body.map alphabet.idxOf = other.map alphabet.idxOf := by
    refine List.reverse_injective (Nat.ofDigits_inj_of_len_eq (show 1 < 32 by decide) ?_ ?_ ?_ same)
    · rw [List.length_reverse, List.length_reverse, List.length_map, List.length_map, spelled.length, also.length]
    · exact fun digit member => letters_small spelled.known digit (List.mem_reverse.mp member)
    · exact fun digit member => letters_small also.known digit (List.mem_reverse.mp member)
  rw [← map_glyph_idxOf spelled.known, digits, map_glyph_idxOf also.known]

/-- Each body spells some key. -/
theorem BodySpelled.key {body : Bytes} (spelled : BodySpelled body) :
    ∃ key : RecoveryKey, 16 * BigEndian.decode key.val = bodyNumber body := by
  have small := Nat.ofDigits_lt_base_pow_length (show 1 < 32 by decide) (l := (body.map alphabet.idxOf).reverse)
    fun digit member => letters_small spelled.known digit (List.mem_reverse.mp member)
  rw [List.length_reverse, List.length_map, spelled.length, ← bodyNumber] at small
  obtain ⟨number, same⟩ := (bodyNumber_blank body).mp spelled.blank
  have fits : number < 256 ^ 32 := by
    rw [same] at small
    have split : 32 ^ 52 = 16 * 256 ^ 32 := by norm_num
    omega
  exact ⟨⟨BigEndian.encode 32 number, BigEndian.encode_length 32 number⟩, by
    rw [same, BigEndian.decode_encode_of_lt fits]⟩

/-- A key's code is read back as the key, whatever is read as that key is that code up to separators and case, and a code
is read as some key exactly when its body is spelled. -/
theorem recovery_codes_canonical :
    (∀ key, parseRecoveryCode (formatRecoveryCode key) = .ok key) ∧
    (∀ code key, parseRecoveryCode code = .ok key → cleaned code = cleaned (formatRecoveryCode key)) ∧
    ∀ code, (∃ key, parseRecoveryCode code = .ok key) ↔
      ∃ body, cleaned code = utf8 codePrefix ++ body ∧ BodySpelled body := by
  refine ⟨parseRecoveryCode_format, fun code key run => ?_, fun code => ⟨?_, ?_⟩⟩
  · obtain ⟨body, cleans, spelled, value⟩ := parseRecoveryCode_eq_ok.mp run
    obtain ⟨other, written, also, number⟩ := cleaned_format key
    rw [cleans, written, body_unique spelled also (value.symm.trans number)]
  · rintro ⟨key, run⟩
    obtain ⟨body, cleans, spelled, _⟩ := parseRecoveryCode_eq_ok.mp run
    exact ⟨body, cleans, spelled⟩
  · rintro ⟨body, cleans, spelled⟩
    obtain ⟨key, value⟩ := spelled.key
    exact ⟨key, parseRecoveryCode_eq_ok.mpr ⟨body, cleans, spelled, value⟩⟩

/-- A code with one letter for another is the code of another key. -/
theorem misspelling_undetected :
    ∃ key other : RecoveryKey, key ≠ other ∧
      parseRecoveryCode "BAL1-AAAA-AAAA-AAAA-AAAA-AAAA-AAAA-AAAA-AAAA-AAAA-AAAA-AAAA-AAAA-AAAA" = .ok key ∧
      parseRecoveryCode "BAL1-BAAA-AAAA-AAAA-AAAA-AAAA-AAAA-AAAA-AAAA-AAAA-AAAA-AAAA-AAAA-AAAA" = .ok other :=
  ⟨⟨List.replicate 32 0, rfl⟩, ⟨8 :: List.replicate 31 0, rfl⟩, by decide, by decide +kernel, by decide +kernel⟩

end BioAuth.Locker
