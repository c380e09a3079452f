import BioAuth.Mobile.Totp

namespace BioAuth.Mobile
open BioAuth

section Value

/-- The dynamic truncation, as RFC 4226 words it: the low nibble of the last octet picks four octets, and these are read
as a number without its sign. -/
def dynamicTruncation (hash : Bytes) : Nat :=
  BigEndian.decode ((hash.drop ((hash.getLast?.getD 0).toNat % 16)).take 4) % 2 ^ 31

/-- The value of RFC 6238 for a moment and a time step, both in microseconds since the epoch. -/
def rfc6238 [Hmac] (algorithm : TotpAlgorithm) (key : Bytes) (digits step now : Nat) : Nat :=
  dynamicTruncation (Hmac.calculateMac algorithm (BigEndian.encode 8 (now / step)) key) % 10 ^ digits

theorem counterOctets_eq (width value : Nat) : counterOctets width value = BigEndian.encode width value := by
  induction width generalizing value with
  | zero => rfl
  | succ width ih =>
    have rest : (value : Int) >>> (8 : Nat) = ((value / 256 : Nat) : Int) := by
      rw [Int.shiftRight_eq_div_pow]
      norm_num
    have byte : UInt8.ofNat ((value : Int) % 256).toNat = UInt8.ofNat value := by
      apply UInt8.toNat_inj.mp
      rw [UInt8.toNat_ofNat', UInt8.toNat_ofNat']
      omega
    rw [counterOctets, rest, ih, byte, BigEndian.encode]

theorem shiftLeft_or {a b : Nat} (n : Nat) (small : b < 256) : a <<< (8 + n) ||| b <<< n = (256 * a + b) <<< n := by
  rw [Nat.shiftLeft_add, ← Nat.shiftLeft_or_distrib, ← Nat.shiftLeft_add_eq_or_of_lt small, Nat.shiftLeft_eq a,
    Nat.mul_comm a]

theorem quad_or {a b c d : Nat} (second : b < 256) (third : c < 256) (last : d < 256) :
    a <<< 24 ||| b <<< 16 ||| c <<< 8 ||| d = 256 * (256 * (256 * a + b) + c) + d := by
  rw [shiftLeft_or 16 second, shiftLeft_or 8 third]
  exact shiftLeft_or 0 last

/-- What the code takes out of the hash octet by octet is the truncation. -/
theorem truncated_eq {hash : Bytes} (long : 20 ≤ hash.length) : truncated hash = dynamicTruncation hash := by
  have offset : (hash.getD (hash.length - 1) 0 &&& 0x0f).toNat = (hash.getLast?.getD 0).toNat % 16 := by
    rw [List.getLast?_eq_getElem?, List.getD_eq_getElem?_getD, UInt8.toNat_and]
    exact Nat.and_two_pow_sub_one_eq_mod _ 4
  have few : (hash.getLast?.getD 0).toNat % 16 < 16 := Nat.mod_lt _ (by decide)
  unfold truncated dynamicTruncation
  rw [offset]
  generalize (hash.getLast?.getD 0).toNat % 16 = start at few
  have octet (index : Nat) (inside : index < 4) : start + index < hash.length := by omega
  have slice : (hash.drop start).take 4 = [hash.getD start 0, hash.getD (start + 1) 0, hash.getD (start + 2) 0,
      hash.getD (start + 3) 0] := by
    apply List.ext_getElem
    · rw [List.length_take, List.length_drop]
      simp only [List.length_cons, List.length_nil]
      omega
    · intro index left right
      simp only [List.length_cons, List.length_nil] at right
      rw [List.getElem_take, List.getElem_drop]
      have inside := octet index right
      interval_cases index <;> grind
  rw [slice]
  dsimp only [Nat.add_zero]
  have first := (hash.getD start 0).toNat_lt
  have second := (hash.getD (start + 1) 0).toNat_lt
  have third := (hash.getD (start + 2) 0).toNat_lt
  have last := (hash.getD (start + 3) 0).toNat_lt
  have low (value : Nat) : value &&& 0x7f = value % 128 := Nat.and_two_pow_sub_one_eq_mod value 7
  have whole {value : Nat} (small : value < 256) : value &&& 0xff = value :=
    (Nat.and_two_pow_sub_one_eq_mod value 8).trans (Nat.mod_eq_of_lt small)
  rw [low, whole second, whole third, whole last, quad_or second third last]
  simp only [BigEndian.decode, List.foldl_cons, List.foldl_nil]
  omega

/-- A number below a power of ten, with zeros before it. -/
theorem padLeft_number {number digits : Nat} (small : number < 10 ^ digits) (some : 0 < digits) :
    (padLeft (toString number) digits).toList.length = digits ∧
      (∀ c ∈ (padLeft (toString number) digits).toList, c.isDigit = true) ∧
      Nat.ofDigitChars 10 (padLeft (toString number) digits).toList 0 = number := by
  have short : (Nat.toDigits 10 number).length ≤ digits := (Nat.length_toDigits_le_iff (by decide) some).mpr small
  have chars : (padLeft (toString number) digits).toList =
      List.replicate (digits - (Nat.toDigits 10 number).length) '0' ++ Nat.toDigits 10 number := by
    rw [padLeft, String.toList_ofList, Nat.toString_eq_ofList_toDigits, String.toList_ofList, List.leftpad]
  rw [chars]
  refine ⟨?_, ?_, ?_⟩
  · rw [List.length_append, List.length_replicate]
    omega
  · intro c member
    rcases List.mem_append.mp member with zero | digit
    · rw [List.eq_of_mem_replicate zero]
      rfl
    · exact toDigits_digit digit
  · rw [Nat.ofDigitChars_append, Nat.ofDigitChars_replicate_zero, Nat.mul_zero, Nat.ofDigitChars_ten_toDigits]

end Value

section Window

/-- A seed with the number of digits and the whole number of seconds that a reader accepts. -/
structure TotpSecret.Stepped (secret : TotpSecret) (seconds : Nat) : Prop where
  digits : 6 ≤ secret.digits.toInt ∧ secret.digits.toInt ≤ 8
  few : 1 ≤ seconds ∧ seconds ≤ 300
  whole : secret.period.inMicroseconds.toInt = 1000000 * seconds

variable {secret : TotpSecret} {seconds : Nat}

theorem Duration.inSeconds_whole {duration : Duration} {seconds : Int}
    (whole : duration.inMicroseconds.toInt = 1000000 * seconds) : duration.inSeconds.toInt = seconds := by
  rw [inSeconds, Int64.toInt_div_of_ne_right _ _ (by decide), whole]
  exact Int.mul_tdiv_cancel_left _ (by decide)

theorem TotpSecret.Stepped.inSeconds (stepped : secret.Stepped seconds) : secret.period.inSeconds.toInt = seconds :=
  Duration.inSeconds_whole stepped.whole

/-- The end of the window a moment is in, in milliseconds. -/
def windowEnd (seconds now : Nat) : Nat := (now / (1000000 * seconds) + 1) * seconds * 1000

theorem windowEnd_after (now : Nat) (some : 0 < seconds) :
    now < windowEnd seconds now * 1000 ∧ windowEnd seconds now * 1000 ≤ now + 1000000 * seconds := by
  have split := Nat.div_add_mod now (1000000 * seconds)
  have rest := Nat.mod_lt now (show 0 < 1000000 * seconds by omega)
  have ends : windowEnd seconds now * 1000 =
      1000000 * seconds * (now / (1000000 * seconds)) + 1000000 * seconds := by
    unfold windowEnd
    ring
  omega

/-- What a code is to be: the value of RFC 6238 with all its digits, until an instant after now and at most one period
later. -/
structure TotpCode.Right [Hmac] (code : TotpCode) (secret : TotpSecret) (now : Nat) : Prop where
  length : code.digits.toList.length = secret.digits.toInt
  decimal : ∀ c ∈ code.digits.toList, c.isDigit = true
  value : Nat.ofDigitChars 10 code.digits.toList 0 =
    rfc6238 secret.algorithm secret.bytes secret.digits.toInt.toNat secret.period.inMicroseconds.toInt.toNat now
  later : now < code.expiresAt.microseconds
  within : code.expiresAt.microseconds ≤ now + secret.period.inMicroseconds.toInt

theorem counter_eq {now : Int} {micros : Nat} (moment : now = micros) :
    ((now.tdiv 1000).tdiv 1000).tdiv seconds = ((micros / (1000000 * seconds) : Nat) : Int) := by
  rw [moment]
  change ((micros / 1000 / 1000 / seconds : Nat) : Int) = _
  rw [Nat.div_div_eq_div_mul, Nat.div_div_eq_div_mul, ← Nat.mul_assoc]

/-- What generating a code comes to. -/
theorem generateTotp_eq [Hmac] (stepped : secret.Stepped seconds) {now : Moment} {micros : Nat}
    (moment : now.val = micros) :
    generateTotp secret now =
      (DateTime.fromMillisecondsSinceEpoch (Int64.ofInt (windowEnd seconds micros))).mapError .other >>= fun expiresAt =>
        .ok { digits := padLeft (toString (rfc6238 secret.algorithm secret.bytes secret.digits.toInt.toNat
                secret.period.inMicroseconds.toInt.toNat micros)) secret.digits.toInt.toNat
              expiresAt } := by
  have few := stepped.few
  have step : secret.period.inMicroseconds.toInt.toNat = 1000000 * seconds := by
    rw [stepped.whole]
    rfl
  have ends : (((micros / (1000000 * seconds) : Nat) : Int) + 1) * seconds * 1000 = windowEnd seconds micros := by
    unfold windowEnd
    push_cast
    rfl
  have long : 20 ≤ (Hmac.calculateMac secret.algorithm (BigEndian.encode 8 (micros / (1000000 * seconds)))
      secret.bytes).length := by
    rw [Hmac.calculateMac_length]
    cases secret.algorithm <;> decide
  unfold generateTotp rfc6238
  dsimp only
  rw [stepped.inSeconds, counter_eq moment, ends, counterOctets_eq, step, truncated_eq long, require,
    if_pos (by omega)]
  rfl

/-- A code is generated exactly where the window ends on a date, and then it is the right one. -/
theorem generateTotp_right [Hmac] (stepped : secret.Stepped seconds) {now : Moment} {micros : Nat}
    (moment : now.val = micros) :
    (∃ code, generateTotp secret now = .ok code ∧ code.Right secret micros) ↔
      windowEnd seconds micros ≤ maxMilliseconds := by
  have few := stepped.few
  have latest := now.property.2
  obtain ⟨after, soon⟩ := windowEnd_after micros (show 0 < seconds by omega)
  have exact : (Int64.ofInt (windowEnd seconds micros)).toInt = windowEnd seconds micros :=
    Int64.toInt_ofInt_of_le (by omega) (by omega)
  rw [generateTotp_eq stepped moment]
  constructor
  · rintro ⟨code, run, -⟩
    obtain ⟨expiresAt, dated, -⟩ := except_bind_eq_ok.mp run
    have reached := (DateTime.fromMillisecondsSinceEpoch_eq_ok.mp (except_mapError_eq_ok.mp dated)) ▸ expiresAt.within
    rw [← exact]
    exact reached.2
  · intro dated
    have reaches : DateTime.Reaches (Int64.ofInt (windowEnd seconds micros)) := by
      rw [DateTime.Reaches, exact]
      exact ⟨by unfold maxMilliseconds; omega, dated⟩
    have digits := stepped.digits
    have count : 0 < secret.digits.toInt.toNat := by omega
    have small : rfc6238 secret.algorithm secret.bytes secret.digits.toInt.toNat
        secret.period.inMicroseconds.toInt.toNat micros < 10 ^ secret.digits.toInt.toNat :=
      Nat.mod_lt _ (Nat.pow_pos (by decide))
    obtain ⟨length, decimal, value⟩ := padLeft_number small count
    refine ⟨_, except_bind_eq_ok.mpr ⟨⟨_, reaches⟩, ?_, rfl⟩, ?_, decimal, value, ?_, ?_⟩
    · rw [DateTime.fromMillisecondsSinceEpoch, dif_pos reaches]
      rfl
    · dsimp only
      omega
    · dsimp only [DateTime.microseconds]
      omega
    · dsimp only [DateTime.microseconds]
      rw [stepped.whole]
      omega

end Window

end BioAuth.Mobile
