import Mathlib
import Stencil.Value.Basic

/-!
# Integers as floats

A float has 53 binary digits, so an integer that needs more is rounded to one that does not
(`nearest`). Two integers compare as floats like the integers that they are rounded to
(`compare_rounded`). Rounding keeps the order (`nearest_mono`) and changes nothing up to `2 ^ 53`
(`nearest_eq_self`), but above that it takes different integers to the same one.
-/

namespace Stencil.Value

open Float.Model
open Float.Model.UnpackedFloat

/-! ## Rounding to a number of digits -/

section Digits

variable {k m n s : Nat}

/-- The quotient by `2 ^ s`, to the nearest, and to the even one of two equally near ones. -/
def roundShift (n s : Nat) : Nat :=
  if 2 * (n % 2 ^ s) < 2 ^ s ∨ 2 * (n % 2 ^ s) = 2 ^ s ∧ n / 2 ^ s % 2 = 0 then n / 2 ^ s
  else n / 2 ^ s + 1

/-- The natural number nearest to `n` that has at most 53 binary digits in front of its zeros. -/
def nearestNat (n : Nat) : Nat := roundShift n (n.log2 - 52) * 2 ^ (n.log2 - 52)

/-- The integer nearest to `n` that has at most 53 binary digits in front of its zeros. -/
def nearest (n : Int) : Int := n.sign * nearestNat n.natAbs

/-- Nothing is rounded where no digit is dropped. -/
theorem roundShift_zero (n : Nat) : roundShift n 0 = n := by
  simp [roundShift, Nat.mod_one]

/-- Rounding goes no further down than the quotient. -/
theorem div_le_roundShift (n s : Nat) : n / 2 ^ s ≤ roundShift n s := by
  rw [roundShift]
  split <;> omega

/-- Rounding goes up by one at most. -/
theorem roundShift_le_div (n s : Nat) : roundShift n s ≤ n / 2 ^ s + 1 := by
  rw [roundShift]
  split <;> omega

/-- Rounding does not go beyond a multiple of the unit. -/
theorem roundShift_le (h : n ≤ k * 2 ^ s) : roundShift n s ≤ k := by
  rcases h.eq_or_lt with rfl | hlt
  · have hpos := Nat.two_pow_pos s
    rw [roundShift, Nat.mul_mod_left, Nat.mul_div_cancel _ hpos, if_pos (Or.inl hpos)]
  · exact (roundShift_le_div n s).trans ((Nat.div_lt_iff_lt_mul (Nat.two_pow_pos s)).2 hlt)

/-- A multiple that is not above a number is not above what it is rounded to. -/
theorem le_roundShift (h : k * 2 ^ s ≤ n) : k ≤ roundShift n s :=
  ((Nat.le_div_iff_mul_le (Nat.two_pow_pos s)).2 h).trans (div_le_roundShift n s)

/-- Dropping the same digits keeps the order. -/
theorem roundShift_mono (s : Nat) (h : m ≤ n) : roundShift m s ≤ roundShift n s := by
  rcases (Nat.div_le_div_right (c := 2 ^ s) h).eq_or_lt with heq | hlt
  · have hmod : m % 2 ^ s ≤ n % 2 ^ s := by
      have hm := Nat.div_add_mod m (2 ^ s)
      have hn := Nat.div_add_mod n (2 ^ s)
      rw [heq] at hm
      omega
    rw [roundShift, roundShift, heq]
    split <;> split <;> omega
  · exact (roundShift_le_div m s).trans (hlt.trans_le (div_le_roundShift n s))

/-- A number is rounded up to the next power of two at most. -/
theorem nearestNat_le (n : Nat) : nearestNat n ≤ 2 ^ (n.log2 + 1) := by
  have hsplit : n.log2 + 1 = (n.log2 + 1 - (n.log2 - 52)) + (n.log2 - 52) := by omega
  rw [nearestNat]
  conv_rhs => rw [hsplit, pow_add]
  refine Nat.mul_le_mul_right _ (roundShift_le ?_)
  rw [← pow_add, ← hsplit]
  exact Nat.lt_log2_self.le

/-- The highest digit stays. -/
theorem le_nearestNat (hn : n ≠ 0) : 2 ^ n.log2 ≤ nearestNat n := by
  have hsplit : n.log2 = (n.log2 - (n.log2 - 52)) + (n.log2 - 52) := by omega
  rw [nearestNat]
  conv_lhs => rw [hsplit, pow_add]
  refine Nat.mul_le_mul_right _ (le_roundShift ?_)
  rw [← pow_add, ← hsplit]
  exact Nat.log2_self_le hn

/-- A larger number is not rounded to a smaller one. -/
theorem nearestNat_mono (h : m ≤ n) : nearestNat m ≤ nearestNat n := by
  rcases Nat.eq_zero_or_pos m with rfl | hm
  · exact Nat.zero_le _
  have hn : n ≠ 0 := by omega
  have hlog : m.log2 ≤ n.log2 := (Nat.le_log2 hn).2 ((Nat.log2_self_le hm.ne').trans h)
  rcases hlog.eq_or_lt with heq | hlt
  · rw [nearestNat, nearestNat, heq]
    exact Nat.mul_le_mul_right _ (roundShift_mono _ h)
  · calc
      nearestNat m ≤ 2 ^ (m.log2 + 1) := nearestNat_le m
      _ ≤ 2 ^ n.log2 := Nat.pow_le_pow_right (by decide) hlt
      _ ≤ nearestNat n := le_nearestNat hn

/-- Numbers of 53 binary digits are floats already. -/
theorem nearestNat_eq_self (h : n ≤ 2 ^ 53) : nearestNat n = n := by
  rcases h.eq_or_lt with rfl | hlt
  · decide
  · have hlog : n.log2 - 52 = 0 := by
      rcases Nat.eq_zero_or_pos n with rfl | hn
      · decide
      · have := (Nat.log2_lt hn.ne').2 hlt
        omega
    rw [nearestNat, hlog, roundShift_zero, pow_zero, mul_one]

theorem nearest_natCast (n : Nat) : nearest n = nearestNat n := by
  rcases Nat.eq_zero_or_pos n with rfl | hn
  · decide
  · rw [nearest, Int.sign_natCast_of_ne_zero hn.ne', one_mul, Int.natAbs_natCast]

/-- Rounding is the same below zero as above. -/
theorem nearest_neg (x : Int) : nearest (-x) = -nearest x := by
  rw [nearest, nearest, Int.sign_neg, Int.natAbs_neg, neg_mul]

/-- A larger integer is not rounded to a smaller one. -/
theorem nearest_mono {x y : Int} (h : x ≤ y) : nearest x ≤ nearest y := by
  obtain ⟨m, rfl | rfl⟩ := x.eq_nat_or_neg <;> obtain ⟨n, rfl | rfl⟩ := y.eq_nat_or_neg
  · rw [nearest_natCast, nearest_natCast]
    exact_mod_cast nearestNat_mono (by omega)
  · have hm : m = 0 := by omega
    have hn : n = 0 := by omega
    rw [hm, hn]
    decide
  · rw [nearest_neg, nearest_natCast, nearest_natCast]
    omega
  · rw [nearest_neg, nearest_neg, nearest_natCast, nearest_natCast]
    have := nearestNat_mono (m := n) (n := m) (by omega)
    omega

/-- Integers of 53 binary digits are floats already, whatever their sign. -/
theorem nearest_eq_self {x : Int} (h : x.natAbs ≤ 2 ^ 53) : nearest x = x := by
  rw [nearest, nearestNat_eq_self h, Int.sign_mul_natAbs]

end Digits

/-! ## Rounding in the machine -/

section Machine

variable {m n : Nat} {e : Int} {sign : Sign}

/-- After shifting out `s` binary digits, the two bits kept of them tell where they stand: at or
above the half, and neither nothing nor the half. -/
theorem shiftRight_eq (n s : Nat) :
    ExtendedMantissa.ofMantissaAndAccuracy n .exact >>> s =
      ⟨n / 2 ^ s, 2 ^ s ≤ 2 * (n % 2 ^ s), 2 * (n % 2 ^ s) ≠ 0 ∧ 2 * (n % 2 ^ s) ≠ 2 ^ s⟩ := by
  induction s with
  | zero =>
    rw [pow_zero, Nat.mod_one, Nat.div_one]
    rfl
  | succ s ih =>
    have hstep (m : ExtendedMantissa) : m >>> (s + 1) = (m >>> s).shiftRightOne := rfl
    have hlt := Nat.mod_lt n (Nat.two_pow_pos s)
    have hmod : n % 2 ^ (s + 1) = n % 2 ^ s + 2 ^ s * (n / 2 ^ s % 2) := by
      rw [pow_succ, Nat.mod_mul]
    have hbit : n / 2 ^ s % 2 = 0 ∨ n / 2 ^ s % 2 = 1 := by omega
    rw [hstep, ih, ExtendedMantissa.shiftRightOne, hmod, pow_succ, ← Nat.div_div_eq_div_mul,
      ExtendedMantissa.mk.injEq]
    refine ⟨rfl, ?_, ?_⟩
    · rw [Bool.eq_iff_iff, bne_iff_ne, decide_eq_true_iff]
      rcases hbit with hbit | hbit <;> rw [hbit] <;> omega
    · rw [Bool.eq_iff_iff, Bool.or_eq_true, decide_eq_true_iff, decide_eq_true_iff,
        decide_eq_true_iff]
      rcases hbit with hbit | hbit <;> rw [hbit] <;> omega

/-- Rounding by these two bits is rounding to the nearest quotient. -/
theorem roundedMantissa_eq (n s : Nat) :
    (ExtendedMantissa.ofMantissaAndAccuracy n .exact >>> s).roundedMantissa = roundShift n s := by
  rw [shiftRight_eq, roundShift]
  cases hround : decide (2 ^ s ≤ 2 * (n % 2 ^ s)) <;>
    cases hsticky : decide (2 * (n % 2 ^ s) ≠ 0 ∧ 2 * (n % 2 ^ s) ≠ 2 ^ s) <;>
      simp only [decide_eq_true_eq, decide_eq_false_iff_not] at hround hsticky
  · exact (if_pos (by omega)).symm
  · exact (if_pos (by omega)).symm
  · change n / 2 ^ s + n / 2 ^ s % 2 = _
    split <;> omega
  · exact (if_neg (by omega)).symm

/-- The exponent at which a number has 53 digits. -/
theorem targetExponent_eq (he : -1074 ≤ (n.log2 : Int) + e - 52) :
    Format.binary64.targetExponent (totalExponent n e) = n.log2 + e - 52 := by
  have hmin : Format.binary64.minExponent = -1074 := by decide
  have hbits : Format.binary64.mantissaBits = 53 := by decide
  rw [Format.targetExponent, totalExponent, hmin, hbits]
  omega

/-- In the range of normal numbers, all digits but the 53 highest are shifted out. -/
theorem shiftToTargetExponent_eq (he : -1074 ≤ (n.log2 : Int) + e - 52) :
    shiftToTargetExponent .binary64 n e .exact =
      (ExtendedMantissa.ofMantissaAndAccuracy n .exact >>> (n.log2 - 52), e + ↑(n.log2 - 52)) := by
  have hshift : ((n.log2 : Int) + e - 52 - e).toNat = n.log2 - 52 := by omega
  simp only [shiftToTargetExponent, targetExponent_eq he, shiftToExponent, hshift]

/-- Rounding a number with at least 53 digits: it may carry into a 54th, and then drops a zero. -/
theorem roundWithAccuracy_eq (sign : Sign) (hlog : 52 ≤ n.log2)
    (he : -1074 ≤ (n.log2 : Int) + e - 52) :
    ∃ (m k : Nat) (hm : 0 < m),
      roundWithAccuracy .binary64 sign n e .exact = .finite sign m (e + k) hm ∧
        2 ^ 52 ≤ m ∧ m < 2 ^ 53 ∧ m * 2 ^ k = nearestNat n := by
  have hn : n ≠ 0 := by rintro rfl; simp at hlog
  have hlow : 2 ^ 52 ≤ roundShift n (n.log2 - 52) := by
    apply le_roundShift
    rw [← pow_add, Nat.add_sub_cancel' hlog]
    exact Nat.log2_self_le hn
  have hhigh : roundShift n (n.log2 - 52) ≤ 2 ^ 53 := by
    apply roundShift_le
    rw [← pow_add, show 53 + (n.log2 - 52) = n.log2 + 1 by omega]
    exact Nat.lt_log2_self.le
  rw [roundWithAccuracy, shiftToTargetExponent_eq he]
  dsimp only
  rw [roundedMantissa_eq]
  rcases hhigh.lt_or_eq with hlt | heq
  · have hlog' : (roundShift n (n.log2 - 52)).log2 = 52 :=
      (Nat.log2_eq_iff (by omega)).2 ⟨hlow, hlt⟩
    rw [shiftToTargetExponent_eq (by omega), hlog']
    refine ⟨_, _, by omega, ?_, hlow, hlt, rfl⟩
    simp [shiftRight_eq, show roundShift n (n.log2 - 52) ≠ 0 by omega]
  · rw [heq, shiftToTargetExponent_eq (by rw [Nat.log2_two_pow]; omega), Nat.log2_two_pow]
    refine ⟨2 ^ 52, n.log2 - 52 + 1, by decide, ?_, le_rfl, by decide, ?_⟩
    · simp [shiftRight_eq, add_assoc]
    · rw [nearestNat, heq, pow_succ' 2 (n.log2 - 52), ← mul_assoc]
      rfl

/-- How an unpacked float of at least one reads, in units of `2 ^ -52`. -/
inductive Denotes : UnpackedFloat → Int → Prop
  | zero {sign : Sign} : Denotes (.zero sign) 0
  | positive {m k : Nat} {hm : 0 < m} (hlow : 2 ^ 52 ≤ m) (hhigh : m < 2 ^ 53) :
    Denotes (.finite .positive m (k - 52) hm) ↑(m * 2 ^ k)
  | negative {m k : Nat} {hm : 0 < m} (hlow : 2 ^ 52 ≤ m) (hhigh : m < 2 ^ 53) :
    Denotes (.finite .negative m (k - 52) hm) (-↑(m * 2 ^ k))

theorem log2_mul_two_pow (hn : n ≠ 0) (d : Nat) : (n * 2 ^ d).log2 = n.log2 + d := by
  rw [Nat.log2_eq_iff (by positivity), pow_add, add_right_comm, pow_add]
  have hpos := Nat.two_pow_pos d
  exact ⟨Nat.mul_le_mul_right _ (Nat.log2_self_le hn),
    Nat.mul_lt_mul_of_pos_right Nat.lt_log2_self hpos⟩

/-- Filling a number up to 53 digits does not change how it is rounded. -/
theorem nearestNat_fill (hn : n ≠ 0) :
    nearestNat (n * 2 ^ (52 - n.log2)) = nearestNat n * 2 ^ (52 - n.log2) := by
  rcases Nat.le_total 52 n.log2 with hle | hle
  · rw [Nat.sub_eq_zero_of_le hle, pow_zero, mul_one, mul_one]
  · have hlog := log2_mul_two_pow hn (52 - n.log2)
    have hfull : n * 2 ^ (52 - n.log2) < 2 ^ 53 := (Nat.log2_lt (by positivity)).1 (by omega)
    have hpos := Nat.two_pow_pos (52 - n.log2)
    have hsmall : n < 2 ^ 53 := (Nat.log2_lt hn).1 (by omega)
    rw [nearestNat_eq_self hfull.le, nearestNat_eq_self hsmall.le]

/-- A positive integer is rounded to the nearest one with 53 digits. -/
theorem round_eq (sign : Sign) (hn : n ≠ 0) :
    ∃ (m k : Nat) (hm : 0 < m),
      UnpackedFloat.round .binary64 sign n 0 = .finite sign m (k - 52) hm ∧
        2 ^ 52 ≤ m ∧ m < 2 ^ 53 ∧ m * 2 ^ k = 2 ^ 52 * nearestNat n := by
  have htarget := targetExponent_eq (n := n) (e := 0) (by omega)
  have hshift : (0 - ((n.log2 : Int) + 0 - 52)).toNat = 52 - n.log2 := by omega
  simp only [UnpackedFloat.round, htarget, decreaseExponent, hshift, Nat.shiftLeft_eq]
  have hlog := log2_mul_two_pow hn (52 - n.log2)
  obtain ⟨m, k, hm, heq, hlow, hhigh, hvalue⟩ :=
    roundWithAccuracy_eq (n := n * 2 ^ (52 - n.log2)) (e := 0 - ↑(52 - n.log2)) sign
      (by omega) (by omega)
  refine ⟨m, k + (52 - (52 - n.log2)), hm, ?_, hlow, hhigh, ?_⟩
  · rw [heq]
    congr 1
    omega
  · rw [pow_add, ← mul_assoc, hvalue, nearestNat_fill hn, mul_assoc, ← pow_add, mul_comm]
    congr 2
    omega

/-- The first digit of a mantissa is not written, and put back when it is read. -/
theorem toNat_hidden (hlow : 2 ^ 52 ≤ n) (hhigh : n < 2 ^ 53) :
    (1#1 ++ BitVec.ofNat 52 n).toNat = n := by
  have h := Nat.two_pow_add_eq_or_of_lt (Nat.mod_lt n (Nat.two_pow_pos 52)) 1
  rw [BitVec.toNat_append, BitVec.toNat_ofNat, BitVec.toNat_ofNat]
  change 2 ^ 52 * 1 ||| n % 2 ^ 52 = n
  rw [← h]
  omega

/-- A normal number is read back from its bits. -/
theorem unpack_pack {hn : 0 < n} (hlow : 2 ^ 52 ≤ n) (hhigh : n < 2 ^ 53) (he : -1074 ≤ e)
    (he' : e ≤ 971) :
    UnpackedFloat.unpack .binary64 (UnpackedFloat.pack .binary64 (.finite sign n e hn)) =
      .finite sign n e hn := by
  obtain ⟨x, hx, hx', rfl⟩ : ∃ x : Nat, 0 < x ∧ x < 2047 ∧ e = x - 1075 :=
    ⟨(e + 1075).toNat, by omega, by omega, by omega⟩
  have hlog : n.log2 = 52 := (Nat.log2_eq_iff (by omega)).2 ⟨hlow, hhigh⟩
  have hbias : Format.binary64.exponentBias = 1023 := rfl
  have hbits : Format.binary64.mantissaBits = 53 := rfl
  have hfield : ((x : Int) - 1075 + 1023 + 52).toNat = x := by omega
  have htoNat : (BitVec.ofNat 11 x).toNat = x := by
    rw [BitVec.toNat_ofNat]
    omega
  have hfinite : BitVec.ofNat 11 x ≠ -1#11 := by
    rw [Ne, ← BitVec.toNat_inj, htoNat]
    exact hx'.ne
  have hnormal : BitVec.ofNat 11 x ≠ 0#11 := by
    rw [Ne, ← BitVec.toNat_inj, htoNat]
    exact hx.ne'
  rw [UnpackedFloat.pack]
  simp only [hbias, hbits, hlog, Nat.cast_ofNat, hfield]
  rw [if_neg (by omega), if_true, UnpackedFloat.unpack]
  simp only [unpackExponent_packComponents, unpackMantissa_packComponents,
    unpackSign_packComponents, Sign.ofBitVec_toBitVec, htoNat]
  rw [if_neg hfinite, if_neg hnormal]
  simp only [toNat_hidden hlow hhigh, hbias]
  congr 1

/-- A number below `2 ^ 128` is packed and unpacked again. -/
theorem denotes_pack {x : Int} {u : UnpackedFloat} (h : Denotes u x) (hx : x.natAbs < 2 ^ 128) :
    Denotes (Float.Model.pack u).unpack x := by
  have hexponent (m k : Nat) (hlow : 2 ^ 52 ≤ m) (hmk : m * 2 ^ k < 2 ^ 128) : k < 76 := by
    by_contra hk
    have hpow : 2 ^ 128 ≤ m * 2 ^ k := calc
      2 ^ 128 ≤ 2 ^ (52 + k) := Nat.pow_le_pow_right (by decide) (by omega)
      _ = 2 ^ 52 * 2 ^ k := pow_add 2 52 k
      _ ≤ m * 2 ^ k := Nat.mul_le_mul_right _ hlow
    omega
  cases h with
  | @zero sign => cases sign <;> exact .zero
  | @positive m k hm hlow hhigh =>
    have hk := hexponent m k hlow (by omega)
    rw [Float.Model.unpack, Float.Model.pack, unpack_pack hlow hhigh (by omega) (by omega)]
    exact .positive hlow hhigh
  | @negative m k hm hlow hhigh =>
    have hk := hexponent m k hlow (by omega)
    rw [Float.Model.unpack, Float.Model.pack, unpack_pack hlow hhigh (by omega) (by omega)]
    exact .negative hlow hhigh

/-- An integer becomes the float that the nearest of the numbers with 53 digits is. -/
theorem denotes_ofInt (x : Int) :
    Denotes (UnpackedFloat.ofInt .binary64 x) (2 ^ 52 * nearest x) := by
  rw [UnpackedFloat.ofInt, UnpackedFloat.normalize]
  obtain ⟨n, rfl | rfl⟩ := x.eq_nat_or_neg <;> rcases Nat.eq_zero_or_pos n with rfl | hn
  · exact .zero
  · obtain ⟨m, k, hm, heq, hlow, hhigh, hvalue⟩ := round_eq .positive hn.ne'
    have hvalue' : (2 ^ 52 * nearestNat n : Int) = ↑(m * 2 ^ k) := by exact_mod_cast hvalue.symm
    rw [compare_gt_iff_gt.2 (by omega), nearest_natCast, hvalue']
    dsimp only
    rw [Int.toNat_natCast, heq]
    exact .positive hlow hhigh
  · exact .zero
  · obtain ⟨m, k, hm, heq, hlow, hhigh, hvalue⟩ := round_eq .negative hn.ne'
    have hvalue' : (2 ^ 52 * nearestNat n : Int) = ↑(m * 2 ^ k) := by exact_mod_cast hvalue.symm
    rw [compare_lt_iff_lt.2 (by omega), nearest_neg, nearest_natCast, mul_neg, hvalue']
    dsimp only
    rw [neg_neg, Int.toNat_natCast, heq]
    exact .negative hlow hhigh

theorem natAbs_nearest (x : Int) : (nearest x).natAbs = nearestNat x.natAbs := by
  obtain ⟨n, rfl | rfl⟩ := x.eq_nat_or_neg
  · rw [nearest_natCast, Int.natAbs_natCast, Int.natAbs_natCast]
  · rw [nearest_neg, nearest_natCast, Int.natAbs_neg, Int.natAbs_neg, Int.natAbs_natCast,
      Int.natAbs_natCast]

/-- So does an integer of 64 bits, and packing the float into its bits loses nothing. -/
theorem denotes_ofInt64 (n : Int64) :
    Denotes (ofInt64 n).unpack (2 ^ 52 * nearest n.toInt) := by
  refine denotes_pack (denotes_ofInt n.toInt) ?_
  have hle := n.le_toInt
  have hlt := n.toInt_lt
  have hmono : nearestNat n.toInt.natAbs ≤ nearestNat (2 ^ 63) := nearestNat_mono (by omega)
  have hmax : nearestNat (2 ^ 63) = 2 ^ 63 := by decide
  have hunit : (2 ^ 52 : Int).natAbs = 2 ^ 52 := rfl
  rw [Int.natAbs_mul, natAbs_nearest, hunit]
  omega

/-- Of two normal numbers the one with the greater exponent is the greater one. -/
theorem mul_two_pow_lt {m k m' k' : Nat} (hhigh : m < 2 ^ 53) (hlow' : 2 ^ 52 ≤ m')
    (hk : k < k') : m * 2 ^ k < m' * 2 ^ k' := calc
  m * 2 ^ k < 2 ^ 53 * 2 ^ k := Nat.mul_lt_mul_of_pos_right hhigh (Nat.two_pow_pos k)
  _ = 2 ^ 52 * 2 ^ (k + 1) := by ring
  _ ≤ m' * 2 ^ k' := Nat.mul_le_mul hlow' (Nat.pow_le_pow_right (by decide) hk)

/-- Of two numbers with 53 digits the exponents decide, and then the digits. -/
theorem compare_mul_two_pow {m k m' k' : Nat} (hlow : 2 ^ 52 ≤ m) (hhigh : m < 2 ^ 53)
    (hlow' : 2 ^ 52 ≤ m') (hhigh' : m' < 2 ^ 53) :
    (compare ((k : Int) - 52) (k' - 52)).then (compare m m') =
      compare (↑(m * 2 ^ k) : Int) ↑(m' * 2 ^ k') := by
  rcases lt_trichotomy k k' with hk | rfl | hk
  · have hlt := mul_two_pow_lt hhigh hlow' hk
    rw [compare_lt_iff_lt.2 (by omega), compare_lt_iff_lt.2 (Int.ofNat_lt.2 hlt)]
    rfl
  · have hpos := Nat.two_pow_pos k
    rw [compare_eq_iff_eq.2 rfl, Ordering.eq_then]
    rcases lt_trichotomy m m' with hm | rfl | hm
    · have hlt := Nat.mul_lt_mul_of_pos_right hm hpos
      rw [compare_lt_iff_lt.2 hm, compare_lt_iff_lt.2 (Int.ofNat_lt.2 hlt)]
    · rw [compare_eq_iff_eq.2 rfl, compare_eq_iff_eq.2 rfl]
    · have hlt := Nat.mul_lt_mul_of_pos_right hm hpos
      rw [compare_gt_iff_gt.2 hm, compare_gt_iff_gt.2 (Int.ofNat_lt.2 hlt)]
  · have hlt := mul_two_pow_lt hhigh' hlow hk
    rw [compare_gt_iff_gt.2 (by omega), compare_gt_iff_gt.2 (Int.ofNat_lt.2 hlt)]
    rfl

theorem swap_compare (x y : Int) : (compare x y).swap = compare (-x) (-y) := by
  rw [Int.compare_swap]
  rcases lt_trichotomy x y with h | rfl | h
  · rw [compare_gt_iff_gt.2 h, compare_gt_iff_gt.2 (neg_lt_neg h)]
  · rw [compare_eq_iff_eq.2 rfl, compare_eq_iff_eq.2 rfl]
  · rw [compare_lt_iff_lt.2 h, compare_lt_iff_lt.2 (neg_lt_neg h)]

/-- Floats are compared as the numbers that they stand for. -/
theorem compare_of_denotes {u v : UnpackedFloat} {x y : Int} (hu : Denotes u x)
    (hv : Denotes v y) : u.compare v = some (compare x y) := by
  have hpos (m k : Nat) (hm : 0 < m) : (0 : Int) < ↑(m * 2 ^ k) :=
    Int.ofNat_lt.2 (Nat.mul_pos hm (Nat.two_pow_pos k))
  rcases hu with _ | @⟨m, k, hm, hlow, hhigh⟩ | @⟨m, k, hm, hlow, hhigh⟩ <;>
    rcases hv with _ | @⟨m', k', hm', hlow', hhigh'⟩ | @⟨m', k', hm', hlow', hhigh'⟩
  case zero.zero => rfl
  case zero.positive => exact congrArg some (compare_lt_iff_lt.2 (hpos m' k' hm')).symm
  case zero.negative =>
    exact congrArg some (compare_gt_iff_gt.2 (neg_lt_zero.2 (hpos m' k' hm'))).symm
  case positive.zero => exact congrArg some (compare_gt_iff_gt.2 (hpos m k hm)).symm
  case positive.positive => exact congrArg some (compare_mul_two_pow hlow hhigh hlow' hhigh')
  case positive.negative =>
    have hlt := (neg_lt_zero.2 (hpos m' k' hm')).trans (hpos m k hm)
    exact congrArg some (compare_gt_iff_gt.2 hlt).symm
  case negative.zero =>
    exact congrArg some (compare_lt_iff_lt.2 (neg_lt_zero.2 (hpos m k hm))).symm
  case negative.positive =>
    have hlt := (neg_lt_zero.2 (hpos m k hm)).trans (hpos m' k' hm')
    exact congrArg some (compare_lt_iff_lt.2 hlt).symm
  case negative.negative =>
    rw [← swap_compare, ← compare_mul_two_pow hlow hhigh hlow' hhigh']
    rfl

end Machine

/-! ## Comparing rounded integers -/

theorem compare_mul_left {c : Int} (hc : 0 < c) (x y : Int) :
    compare (c * x) (c * y) = compare x y := by
  rcases lt_trichotomy x y with h | rfl | h
  · rw [compare_lt_iff_lt.2 h, compare_lt_iff_lt.2 (Int.mul_lt_mul_of_pos_left h hc)]
  · rw [compare_eq_iff_eq.2 rfl, compare_eq_iff_eq.2 rfl]
  · rw [compare_gt_iff_gt.2 h, compare_gt_iff_gt.2 (Int.mul_lt_mul_of_pos_left h hc)]

/-- As floats, integers compare like the numbers that they are rounded to. -/
theorem compare_rounded (a b : Int64) :
    (rounded a).toModel.unpack.compare (rounded b).toModel.unpack =
      some (compare (nearest a.toInt) (nearest b.toInt)) := by
  rw [rounded, rounded, compare_of_denotes (denotes_ofInt64 a) (denotes_ofInt64 b),
    compare_mul_left (by decide)]

/-- A float is less than another one just if the integers are rounded to numbers of which this is
so. -/
theorem rounded_lt_iff (a b : Int64) :
    rounded a < rounded b ↔ nearest a.toInt < nearest b.toInt := by
  rw [← compare_lt_iff_lt]
  change decide (UnpackedFloat.lt _ _ = true) = true ↔ _
  rw [decide_eq_true_iff, UnpackedFloat.lt, compare_rounded]
  simp

/-- Two floats are equal just if the integers are rounded to the same number. -/
theorem rounded_beq_iff (a b : Int64) :
    (rounded a == rounded b) = true ↔ nearest a.toInt = nearest b.toInt := by
  rw [← compare_eq_iff_eq (a := nearest a.toInt)]
  change UnpackedFloat.beq _ _ = true ↔ _
  rw [UnpackedFloat.beq, compare_rounded]
  simp

end Stencil.Value
