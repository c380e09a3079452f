import BioAuth.Protocol.Encoding

namespace BioAuth.Protocol
open BioAuth BioAuth.Regroup

/-- The characters that are read, which are those before the first `=`. -/
def payload (value : String) : List Char := value.toList.takeWhile (· ≠ '=')

/-- The bits of the last character that no octet takes. -/
def leftover (chars : List Char) : Nat := 6 * chars.length % 8

/-- Characters of the alphabet, the last of which has zeros where no octet takes its bits. -/
structure Readable (chars : List Char) : Prop where
  known : ∀ c ∈ chars, c ∈ base64url
  blank : (chars.getLast?.map base64url.idxOf).getD 0 % 2 ^ leftover chars = 0

/-- The number that characters spell. -/
def spelledNumber (chars : List Char) : Nat := Nat.ofDigits 64 (chars.map base64url.idxOf).reverse

theorem base64urlUnit_idxOf {c : Char} (known : c ∈ base64url) : base64urlUnit (base64url.idxOf c) = c := by
  have inside := List.idxOf_lt_length_of_mem known
  rw [base64urlUnit, List.getD_eq_getElem _ _ inside, List.getElem_idxOf]

theorem indices_small {chars : List Char} (known : ∀ c ∈ chars, c ∈ base64url) :
    ∀ digit ∈ chars.map base64url.idxOf, digit < 64 := by
  intro digit member
  obtain ⟨c, inside, rfl⟩ := List.mem_map.mp member
  exact List.idxOf_lt_length_of_mem (known c inside)

theorem map_unit_idxOf {chars : List Char} (known : ∀ c ∈ chars, c ∈ base64url) :
    (chars.map base64url.idxOf).map base64urlUnit = chars := by
  rw [List.map_map]
  exact (List.map_congr_left fun c member => base64urlUnit_idxOf (known c member)).trans (List.map_id' chars)

/-- Characters are read digit by digit when the alphabet has them all. -/
theorem readBase64url_run {chars : List Char} {state : UInt32 × Nat × Bytes} :
    chars.foldlM readBase64url (0, 0, []) = .ok state ↔
      (∀ c ∈ chars, c ∈ base64url) ∧ state = (chars.map base64url.idxOf).foldl (collect 6) (0, 0, []) := by
  generalize ((0, 0, []) : UInt32 × Nat × Bytes) = start
  induction chars generalizing start with
  | nil => exact ⟨fun run => ⟨nofun, (Except.ok.inj run).symm⟩, fun ⟨_, same⟩ => congrArg Except.ok same.symm⟩
  | cons c chars ih =>
    simp only [List.foldlM_cons, readBase64url, List.forall_mem_cons, List.map_cons, List.foldl_cons, bind_assoc,
      pure_bind, except_bind_eq_ok, except_require_eq_ok, exists_const, ih, and_assoc]

/-- The last character alone decides whether the bits left over are blank. -/
theorem blank_iff (chars : List Char) :
    (chars.getLast?.map base64url.idxOf).getD 0 % 2 ^ leftover chars = 0 ↔
      2 ^ leftover chars ∣ spelledNumber chars := by
  rcases List.eq_nil_or_concat' chars with rfl | ⟨front, c, rfl⟩
  · simp [spelledNumber, leftover]
  · have narrow : leftover (front ++ [c]) ≤ 6 := by
      unfold leftover
      omega
    have divides : 2 ^ leftover (front ++ [c]) ∣ 64 := pow_dvd_pow 2 narrow
    have number : spelledNumber (front ++ [c]) = 64 * spelledNumber front + base64url.idxOf c := by
      rw [spelledNumber, List.map_append, List.map_singleton, ofDigits_concat, spelledNumber]
    rw [number, List.getLast?_concat, Option.map_some, Option.getD_some, ← Nat.dvd_iff_mod_eq_zero,
      Nat.dvd_add_right (divides.mul_right _)]

/-- What is read off a text is the number it spells, without the bits left over. -/
theorem fromBase64url_eq_ok {value : String} {out : Bytes} :
    fromBase64url value = .ok out ↔ Readable (payload value) ∧
      8 * out.length + leftover (payload value) = 6 * (payload value).length ∧
      2 ^ leftover (payload value) * BigEndian.decode out = spelledNumber (payload value) := by
  have read : fromBase64url value = .ok out ↔ (∀ c ∈ payload value, c ∈ base64url) ∧
      ∃ acc bits, (acc, bits, out) = ((payload value).map base64url.idxOf).foldl (collect 6) (0, 0, []) ∧
        (bits = 0 ∨ acc &&& ((1 <<< UInt32.ofNat bits) - 1) = 0) := by
    unfold fromBase64url
    rw [← payload]
    simp only [except_bind_eq_ok, except_require_eq_ok, except_pure_eq_ok, exists_const, Prod.exists,
      readBase64url_run]
    constructor
    · rintro ⟨acc, bits, out, ⟨known, run⟩, blank, rfl⟩
      exact ⟨known, acc, bits, run, blank⟩
    · rintro ⟨known, acc, bits, run, blank⟩
      exact ⟨acc, bits, out, ⟨known, run⟩, blank, rfl⟩
  rw [read]
  generalize payload value = chars
  by_cases known : ∀ c ∈ chars, c ∈ base64url
  swap
  · exact ⟨fun run => absurd run.1 known, fun run => absurd run.1.known known⟩
  obtain ⟨⟨few, held, octets⟩, count⟩ := collected_digits 6 (by decide) (indices_small known)
  rw [show 2 ^ 6 = 64 from rfl, ← spelledNumber] at held octets
  rw [List.length_map] at count
  generalize (chars.map base64url.idxOf).foldl (collect 6) (0, 0, []) = state at few held octets count ⊢
  obtain ⟨acc, bits, collected⟩ := state
  dsimp only at few held octets count ⊢
  have over' : bits = leftover chars := by
    unfold leftover
    omega
  have masked : (bits = 0 ∨ acc &&& ((1 <<< UInt32.ofNat bits) - 1) = 0) ↔ 2 ^ bits ∣ spelledNumber chars := by
    rw [Holds.masked held few, or_iff_right_iff_imp]
    rintro rfl
    exact one_dvd _
  constructor
  · rintro ⟨_, _, _, same, blank⟩
    cases same
    have divides := masked.mp blank
    rw [over'] at divides count octets
    refine ⟨⟨known, (blank_iff chars).mpr divides⟩, count, ?_⟩
    rw [octets, Nat.mul_div_cancel' divides]
  · rintro ⟨⟨_, blank⟩, size, value⟩
    have divides := (blank_iff chars).mp blank
    rw [← over'] at divides size value
    have same : collected = out := by
      rw [← value, Nat.mul_div_cancel_left _ (Nat.two_pow_pos bits)] at octets
      rw [← BigEndian.encode_decode collected, ← BigEndian.encode_decode out, octets,
        show collected.length = out.length by omega]
    exact ⟨known, acc, bits, by rw [same], masked.mpr divides⟩

/-- Whatever is readable is read as some octets. -/
theorem Readable.read {value : String} (readable : Readable (payload value)) :
    ∃ out, fromBase64url value = .ok out := by
  have whole := Nat.ofDigits_lt_base_pow_length (show 1 < 64 by decide)
    (l := ((payload value).map base64url.idxOf).reverse)
    fun digit member => indices_small readable.known digit (List.mem_reverse.mp member)
  rw [List.length_reverse, List.length_map, ← spelledNumber] at whole
  have divides := (blank_iff _).mp readable.blank
  obtain ⟨number, same⟩ := divides
  have count : 8 * (6 * (payload value).length / 8) + leftover (payload value) = 6 * (payload value).length :=
    Nat.div_add_mod _ _
  have small : number < 256 ^ (6 * (payload value).length / 8) := by
    have split : 64 ^ (payload value).length =
        2 ^ leftover (payload value) * 256 ^ (6 * (payload value).length / 8) := by
      rw [show 64 = 2 ^ 6 from rfl, show 256 = 2 ^ 8 from rfl, ← pow_mul, ← pow_mul, ← pow_add, Nat.add_comm, count]
    rw [split, same] at whole
    exact Nat.lt_of_mul_lt_mul_left whole
  refine ⟨BigEndian.encode (6 * (payload value).length / 8) number, fromBase64url_eq_ok.mpr ⟨readable, ?_, ?_⟩⟩
  · rw [BigEndian.encode_length, count]
  · rw [BigEndian.decode_encode_of_lt small, same]

/-- What is written has no padding, and no length that octets cannot have. -/
theorem toBase64url_plain (bytes : Bytes) :
    '=' ∉ (toBase64url bytes).toList ∧ (toBase64url bytes).toList.length % 4 ≠ 1 := by
  obtain ⟨count, small, _⟩ := base64urlUnits_value bytes
  rw [toBase64url, String.toList_ofList, List.length_map]
  refine ⟨fun member => ?_, ?_⟩
  · obtain ⟨unit, inside, same⟩ := List.mem_map.mp member
    exact (base64urlUnit_mem (small unit inside)).2.2 same
  · unfold padding at count
    omega

/-- A text without padding and of a length that octets can have is what its octets are written as. -/
theorem toBase64url_read {value : String} {bytes : Bytes} (plain : '=' ∉ value.toList)
    (length : value.toList.length % 4 ≠ 1) (run : fromBase64url value = .ok bytes) : toBase64url bytes = value := by
  have whole : payload value = value.toList := by
    rw [payload, List.takeWhile_eq_self_iff]
    exact fun c member => decide_eq_true fun same => plain (same ▸ member)
  obtain ⟨⟨known, _⟩, size, number⟩ := fromBase64url_eq_ok.mp run
  rw [whole] at known size number
  obtain ⟨count, small, units⟩ := base64urlUnits_value bytes
  have left : leftover value.toList = padding bytes := by
    unfold leftover at size ⊢
    unfold padding
    have residue : bytes.length % 3 = 0 ∨ bytes.length % 3 = 1 ∨ bytes.length % 3 = 2 := by omega
    rcases residue with none | one | two
    · rw [none]
      omega
    · rw [one]
      omega
    · rw [two]
      omega
  rw [left] at size number
  have digits : value.toList.map base64url.idxOf = base64urlUnits bytes := by
    refine List.reverse_injective (Nat.ofDigits_inj_of_len_eq (show 1 < 64 by decide) ?_ ?_ ?_ ?_)
    · rw [List.length_reverse, List.length_reverse, List.length_map]
      omega
    · exact fun digit member => indices_small known digit (List.mem_reverse.mp member)
    · exact fun digit member => small digit (List.mem_reverse.mp member)
    · exact number.symm.trans units.symm
  rw [toBase64url, ← digits, map_unit_idxOf known, String.ofList_toList]

/-- Each string of octets has its own spelling, and a text is the spelling of what is read off it exactly when it has no
padding and a length that octets can have, if anything is read off it at all. -/
theorem base64url_spelling_iff (value : String) :
    (∀ bytes, fromBase64url (toBase64url bytes) = .ok bytes) ∧
    ((∀ bytes, fromBase64url value = .ok bytes → toBase64url bytes = value) ↔
      (Readable (payload value) → '=' ∉ value.toList ∧ value.toList.length % 4 ≠ 1)) := by
  refine ⟨fromBase64url_toBase64url, ⟨fun own readable => ?_, fun plain bytes run => ?_⟩⟩
  · obtain ⟨bytes, run⟩ := readable.read
    rw [← own bytes run]
    exact toBase64url_plain bytes
  · obtain ⟨unpadded, length⟩ := plain (fromBase64url_eq_ok.mp run).1
    exact toBase64url_read unpadded length run

/-- A single character is read as nothing, and whatever stands behind a `=` is not looked at. -/
theorem base64url_respelled :
    fromBase64url "A" = .ok [] ∧ toBase64url [] ≠ "A" ∧
    fromBase64url "Zg=!" = .ok [0x66] ∧ toBase64url [0x66] ≠ "Zg=!" := by
  decide +kernel

end BioAuth.Protocol
