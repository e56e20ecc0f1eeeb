import Mathlib.Data.Rat.Floor
import Mathlib.Tactic.Linarith
import Stencil.Function.Apply

/-!
# Arithmetic of integers

Sums, differences, products and negations are the exact numbers, or an overflow where these do not
fit 64 bits. Quotients and remainders go to the floor, although the division that they are made of
goes towards zero (`floor_div_eq_tdiv`); the corrections that this takes never leave the range, so
that it does not matter that nothing guards them.

The one remainder that is refused although it would fit is that of the least integer by `-1`, whose
quotient does not fit (`floorMod_overflow`).
-/

namespace Stencil

namespace Value

variable {n : Int} {a b c : Int64}

/-- The number is one of 64 bits with a sign. -/
def Fits (n : Int) : Prop := Int64.minValue.toInt ≤ n ∧ n ≤ Int64.maxValue.toInt

instance : Decidable (Fits n) := inferInstanceAs (Decidable (_ ∧ _))

/-- The number as a value, and an overflow if it does not fit. -/
def fitted (n : Int) : Except EvalError Value :=
  if Fits n then .ok (int (Int64.ofInt n)) else .error (.badType .overflow)

/-- The integers of 64 bits, in numbers. -/
theorem fits_iff : Fits n ↔ -2 ^ 63 ≤ n ∧ n < 2 ^ 63 := by
  rw [Fits, Int64.toInt_minValue, Int64.toInt_maxValue]
  omega

theorem not_fits_iff : ¬Fits n ↔ 2 ^ 63 ≤ n ∨ n < -2 ^ 63 := by
  rw [fits_iff]
  omega

/-- What is in 64 bits fits. -/
theorem fits_toInt (c : Int64) : Fits c.toInt := fits_iff.2 ⟨c.le_toInt, c.toInt_lt⟩

/-- An integer of 64 bits is kept as it is. -/
theorem fitted_toInt (c : Int64) : fitted c.toInt = .ok (int c) := by
  rw [fitted, if_pos (fits_toInt c), Int64.ofInt_toInt]

/-- An operation that is refused iff its exact result does not fit, and is exact otherwise. -/
theorem map_checked {overflow : Bool} (hoverflow : overflow = true ↔ ¬Fits n)
    (hexact : ¬overflow = true → c.toInt = n) : (checked overflow c).map int = fitted n := by
  cases overflow with
  | true =>
    rw [fitted, if_neg (hoverflow.1 rfl)]
    rfl
  | false =>
    rw [← hexact Bool.false_ne_true, fitted_toInt]
    rfl

/-! ## When the machine overflows -/

/-- The flag for sums tells whether the exact sum fits. -/
theorem saddOverflow_iff :
    a.toBitVec.saddOverflow b.toBitVec = true ↔ ¬Fits (a.toInt + b.toInt) := by
  simp [BitVec.saddOverflow, not_fits_iff]

/-- The flag for differences tells whether the exact difference fits. -/
theorem ssubOverflow_iff :
    a.toBitVec.ssubOverflow b.toBitVec = true ↔ ¬Fits (a.toInt - b.toInt) := by
  simp [BitVec.ssubOverflow, not_fits_iff]

/-- The flag for products tells whether the exact product fits. -/
theorem smulOverflow_iff :
    a.toBitVec.smulOverflow b.toBitVec = true ↔ ¬Fits (a.toInt * b.toInt) := by
  simp [BitVec.smulOverflow, not_fits_iff]

/-- The flag for negations tells whether the exact negation fits. -/
theorem negOverflow_iff : a.toBitVec.negOverflow = true ↔ ¬Fits (-a.toInt) := by
  have h : a.toBitVec.negOverflow = true ↔ a.toInt = -2 ^ 63 := by
    simp [BitVec.negOverflow]
  have hle := a.le_toInt
  have hlt := a.toInt_lt
  rw [h, not_fits_iff]
  omega

/-- Only one quotient does not fit. -/
theorem sdivOverflow_iff :
    a.toBitVec.sdivOverflow b.toBitVec = true ↔ a = Int64.minValue ∧ b = -1 := by
  have hmin : BitVec.intMin 64 = Int64.minValue.toBitVec := rfl
  have hones : BitVec.allOnes 64 = (-1 : Int64).toBitVec := rfl
  simp only [BitVec.sdivOverflow_eq, hmin, hones, Int64.toBitVec_inj, Nat.zero_lt_succ, decide_true,
    Bool.true_and, Bool.and_eq_true, decide_eq_true_eq]

/-- A sum that fits is the exact sum. -/
theorem toInt_add_of_fits (h : Fits (a.toInt + b.toInt)) : (a + b).toInt = a.toInt + b.toInt :=
  BitVec.toInt_add_of_not_saddOverflow fun ho => saddOverflow_iff.1 ho h

/-- A difference that fits is the exact difference. -/
theorem toInt_sub_of_fits (h : Fits (a.toInt - b.toInt)) : (a - b).toInt = a.toInt - b.toInt :=
  BitVec.toInt_sub_of_not_ssubOverflow fun ho => ssubOverflow_iff.1 ho h

/-! ## Floors

The division of the machine goes towards zero. -/

section Floor

variable {x y q : Int}

/-- The floor of a quotient is the number that leaves a remainder between zero and the divisor. -/
theorem floor_div_eq (h : 0 ≤ x - y * q ∧ x - y * q < y ∨ y < x - y * q ∧ x - y * q ≤ 0) :
    ⌊(x : ℚ) / y⌋ = q := by
  rw [Int.floor_eq_iff]
  rcases h with ⟨hle, hlt⟩ | ⟨hlt, hle⟩
  · have hy : (0 : ℚ) < y := by exact_mod_cast (by omega : 0 < y)
    rw [le_div_iff₀ hy, div_lt_iff₀ hy]
    constructor
    · exact_mod_cast (by linarith : q * y ≤ x)
    · exact_mod_cast (by linarith : x < (q + 1) * y)
  · have hy : (y : ℚ) < 0 := by exact_mod_cast (by omega : y < 0)
    rw [le_div_iff_of_neg hy, div_lt_iff_of_neg hy]
    constructor
    · exact_mod_cast (by linarith : x ≤ q * y)
    · exact_mod_cast (by linarith : (q + 1) * y < x)

/-- Dividing towards zero leaves a remainder that is smaller than the divisor and has the sign of
the dividend. -/
theorem tmod_spec (hy : y ≠ 0) :
    y * x.tdiv y + x.tmod y = x ∧ (x.tmod y).natAbs < y.natAbs ∧
      (0 ≤ x → 0 ≤ x.tmod y) ∧ (x ≤ 0 → x.tmod y ≤ 0) := by
  refine ⟨Int.mul_tdiv_add_tmod x y, ?_, Int.tmod_nonneg y, fun hx => ?_⟩
  · rw [Int.natAbs_tmod]
    exact Nat.mod_lt _ (Int.natAbs_pos.2 hy)
  · have h := Int.tmod_nonneg y (Int.neg_nonneg_of_nonpos hx)
    rw [Int.neg_tmod] at h
    omega

/-- Towards zero and down to the floor differ by one, where the signs differ and something is
left. -/
theorem floor_div_eq_tdiv (hy : y ≠ 0) :
    ⌊(x : ℚ) / y⌋ = if x.tmod y ≠ 0 ∧ ¬(x < 0 ↔ y < 0) then x.tdiv y - 1 else x.tdiv y := by
  obtain ⟨hsum, hlt, hpos, hneg⟩ := tmod_spec (x := x) hy
  split
  · apply floor_div_eq
    rw [mul_sub]
    omega
  · apply floor_div_eq
    omega

/-- What the floor leaves has the sign of the divisor. -/
theorem sub_mul_floor_eq_tmod (hy : y ≠ 0) :
    x - y * ⌊(x : ℚ) / y⌋ =
      if x.tmod y ≠ 0 ∧ ¬(x.tmod y < 0 ↔ y < 0) then x.tmod y + y else x.tmod y := by
  obtain ⟨hsum, hlt, hpos, hneg⟩ := tmod_spec (x := x) hy
  rw [floor_div_eq_tdiv hy]
  by_cases h : x.tmod y ≠ 0 ∧ ¬(x < 0 ↔ y < 0)
  · rw [if_pos h, if_pos (by omega), mul_sub]
    omega
  · rw [if_neg h, if_neg (by omega)]
    omega

end Floor

/-! ## Quotients and remainders of the machine -/

theorem toInt_ne_zero (hb : b ≠ 0) : b.toInt ≠ 0 := fun h => hb (Int64.toInt_inj.1 h)

theorem toInt_neg_iff : a.toInt < 0 ↔ a < 0 := by
  rw [Int64.lt_iff_toInt_lt, Int64.toInt_zero]

/-- There is a remainder exactly if the exact division leaves one. -/
theorem toInt_tmod_ne_zero_iff : a.toInt.tmod b.toInt ≠ 0 ↔ a % b ≠ 0 := by
  rw [← Int64.toInt_mod, ← Int64.toInt_zero, Ne, Int64.toInt_inj]

/-- The machine steps down from a quotient where the number does. -/
theorem stepsDown_iff :
    a.toInt.tmod b.toInt ≠ 0 ∧ ¬(a.toInt < 0 ↔ b.toInt < 0) ↔ a % b ≠ 0 ∧ ¬(a < 0 ↔ b < 0) := by
  rw [toInt_tmod_ne_zero_iff, toInt_neg_iff, toInt_neg_iff]

/-- The machine changes the side of a remainder where the number does. -/
theorem changesSide_iff :
    a.toInt.tmod b.toInt ≠ 0 ∧ ¬(a.toInt.tmod b.toInt < 0 ↔ b.toInt < 0) ↔
      a % b ≠ 0 ∧ ¬(a % b < 0 ↔ b < 0) := by
  rw [toInt_tmod_ne_zero_iff, ← Int64.toInt_mod, toInt_neg_iff, toInt_neg_iff]

/-- A quotient that fits is the exact quotient, towards zero. -/
theorem toInt_div (h : ¬(a = Int64.minValue ∧ b = -1)) :
    (a / b).toInt = a.toInt.tdiv b.toInt := by
  by_cases ha : a = Int64.minValue
  · exact Int64.toInt_div_of_ne_right a b fun hb => h ⟨ha, hb⟩
  · exact Int64.toInt_div_of_ne_left a b ha

/-- A quotient that leaves something is at most half as large as the dividend. -/
theorem natAbs_tdiv_le {x y : Int} (hy : y ≠ 0) (h : x.tmod y ≠ 0) :
    (x.tdiv y).natAbs ≤ x.natAbs / 2 := by
  obtain ⟨-, hlt, -⟩ := tmod_spec (x := x) hy
  rw [Int.natAbs_tdiv]
  exact Nat.div_le_div_left (by omega) (by omega)

/-- What `floorDiv` and `floorMod` compute without a check: a remainder, which the machine can take
iff the quotient fits; the step from the quotient down to the floor; and the step from the remainder
to the side of the divisor. All stay in range wherever they are taken. -/
structure StepsFit (a b : Int64) : Prop where
  remainder : Fits (a.toInt.tdiv b.toInt)
  down : a % b ≠ 0 ∧ ¬(a < 0 ↔ b < 0) → Fits ((a / b).toInt - 1)
  side : a % b ≠ 0 ∧ ¬(a % b < 0 ↔ b < 0) → Fits ((a % b).toInt + b.toInt)

/-- Nothing that is computed on the way to a quotient or a remainder leaves the range, but for the
one quotient that does not fit. -/
theorem stepsFit (hb : b ≠ 0) (h : ¬(a = Int64.minValue ∧ b = -1)) : StepsFit a b := by
  have hy := toInt_ne_zero hb
  constructor
  · rw [← toInt_div h]
    exact fits_toInt _
  · intro hdown
    have hhalf := natAbs_tdiv_le hy (stepsDown_iff.2 hdown).1
    have hle := a.le_toInt
    have hlt := a.toInt_lt
    rw [fits_iff, toInt_div h]
    omega
  · intro hside
    have hsigns := (changesSide_iff.2 hside).2
    obtain ⟨-, hsmall, -⟩ := tmod_spec (x := a.toInt) hy
    have hle := b.le_toInt
    have hlt := b.toInt_lt
    rw [fits_iff, Int64.toInt_mod]
    omega

/-- The one quotient that does not fit is an overflow. -/
theorem floorDiv_overflow (h : a = Int64.minValue ∧ b = -1) :
    floorDiv a b = .error (.badType .overflow) := by
  obtain ⟨rfl, rfl⟩ := h
  rfl

/-- The remainder that belongs to it is an overflow as well, though it would be zero. -/
theorem floorMod_overflow (h : a = Int64.minValue ∧ b = -1) :
    floorMod a b = .error (.badType .overflow) := by
  obtain ⟨rfl, rfl⟩ := h
  rfl

/-- All other quotients are there. -/
theorem floorDiv_eq_ok (hb : b ≠ 0) (h : ¬(a = Int64.minValue ∧ b = -1)) :
    floorDiv a b = .ok (if a % b ≠ 0 ∧ ¬(a < 0 ↔ b < 0) then a / b - 1 else a / b) := by
  have hcheck : a.toBitVec.sdivOverflow b.toBitVec = false := by
    rwa [← Bool.not_eq_true, sdivOverflow_iff]
  rw [floorDiv, if_neg hb, hcheck]
  rfl

/-- All other remainders are there. -/
theorem floorMod_eq_ok (hb : b ≠ 0) (h : ¬(a = Int64.minValue ∧ b = -1)) :
    floorMod a b = .ok (if a % b ≠ 0 ∧ ¬(a % b < 0 ↔ b < 0) then a % b + b else a % b) := by
  have hcheck : a.toBitVec.sdivOverflow b.toBitVec = false := by
    rwa [← Bool.not_eq_true, sdivOverflow_iff]
  rw [floorMod, if_neg hb, hcheck]
  rfl

/-- What is refused for a divisor of zero, overflows in the one case and succeeds otherwise is an
error of division for a divisor of zero only. -/
theorem eq_divisionByZero_iff {e : Except EvalError Int64}
    (hzero : b = 0 → e = .error .divisionByZero)
    (hoverflow : a = Int64.minValue ∧ b = -1 → e = .error (.badType .overflow))
    (hok : b ≠ 0 → ¬(a = Int64.minValue ∧ b = -1) → e = .ok c) :
    e = .error .divisionByZero ↔ b = 0 := by
  refine ⟨fun he => ?_, hzero⟩
  by_contra hb
  by_cases h : a = Int64.minValue ∧ b = -1
  · rw [hoverflow h] at he
    cases he
  · rw [hok hb h] at he
    cases he

/-- Division by zero is reported for a divisor of zero, and for nothing else. -/
theorem floorDiv_eq_divisionByZero_iff : floorDiv a b = .error .divisionByZero ↔ b = 0 :=
  eq_divisionByZero_iff (fun hb => by rw [floorDiv, if_pos hb]) floorDiv_overflow floorDiv_eq_ok

theorem floorMod_eq_divisionByZero_iff : floorMod a b = .error .divisionByZero ↔ b = 0 :=
  eq_divisionByZero_iff (fun hb => by rw [floorMod, if_pos hb]) floorMod_overflow floorMod_eq_ok

/-- The quotient is the floor, and refused iff that does not fit. -/
theorem floorDiv_eq_fitted (hb : b ≠ 0) :
    (floorDiv a b).map int = fitted ⌊(a.toInt : ℚ) / b.toInt⌋ := by
  by_cases h : a = Int64.minValue ∧ b = -1
  · have hfloor : ⌊(a.toInt : ℚ) / b.toInt⌋ = 2 ^ 63 := by
      rw [h.1, h.2]
      exact floor_div_eq (by decide)
    rw [floorDiv_overflow h, hfloor, fitted, if_neg (by decide)]
    rfl
  · rw [floorDiv_eq_ok hb h, floor_div_eq_tdiv (toInt_ne_zero hb), if_congr stepsDown_iff rfl rfl,
      ← toInt_div h]
    split
    next hdown =>
      have hstep : (a / b - 1).toInt = (a / b).toInt - 1 :=
        toInt_sub_of_fits (b := 1) ((stepsFit hb h).down hdown)
      rw [← hstep, fitted_toInt]
      rfl
    next => exact (fitted_toInt _).symm

/-- The remainder is what the floor leaves, unless the quotient does not fit. -/
theorem floorMod_eq_fitted (hb : b ≠ 0) (h : ¬(a = Int64.minValue ∧ b = -1)) :
    (floorMod a b).map int = fitted (a.toInt - b.toInt * ⌊(a.toInt : ℚ) / b.toInt⌋) := by
  rw [floorMod_eq_ok hb h, sub_mul_floor_eq_tmod (toInt_ne_zero hb),
    if_congr changesSide_iff rfl rfl, ← Int64.toInt_mod]
  split
  next hside =>
    rw [← toInt_add_of_fits ((stepsFit hb h).side hside), fitted_toInt]
    rfl
  next => exact (fitted_toInt _).symm

end Value

namespace Expr

open Value

variable {apply : Application} {ctx : Context} {site : Site} {l r : Expr} {v w : Value}

/-- Where both operands have a value, an operator between them is that of the two values. -/
theorem evalWith_binary (op : BinaryOp) (hl : l.evalWith apply ctx (0 :: site) = .ok v)
    (hr : r.evalWith apply ctx (1 :: site) = .ok w) :
    (binary op l r).evalWith apply ctx site = v.binary site op w := by
  rw [evalWith, hl, hr]
  rfl

/-- Where the operand has a value, an operator in front of it is that of the value. -/
theorem evalWith_unary (op : UnaryOp) (hl : l.evalWith apply ctx (0 :: site) = .ok v) :
    (unary op l).evalWith apply ctx site = v.unary op := by
  rw [evalWith, hl]
  rfl

theorem map_eq_divisionByZero_iff {e : Except EvalError Int64} :
    e.map int = .error .divisionByZero ↔ e = .error .divisionByZero := by
  cases e <;> simp [Except.map]

/-- Sums, differences, products and negations of integers are exact or overflow. Quotients and
remainders are errors of division iff the divisor is zero. Otherwise the quotient is the floor, or
an overflow where this does not fit; the remainder is what the floor leaves, in all cases but that
of the least integer by `-1`, where it is an overflow. No step on the way leaves the range
unnoticed. -/
theorem evalWith_integers (apply : Application) (ctx : Context) (site : Site) (l r : Expr)
    (a b : Int64) (hl : l.evalWith apply ctx (0 :: site) = .ok (.int a))
    (hr : r.evalWith apply ctx (1 :: site) = .ok (.int b)) :
    let value op := (binary op l r).evalWith apply ctx site
    value .add = fitted (a.toInt + b.toInt) ∧
    value .sub = fitted (a.toInt - b.toInt) ∧
    value .mul = fitted (a.toInt * b.toInt) ∧
    (unary .neg l).evalWith apply ctx site = fitted (-a.toInt) ∧
    (value .floorDiv = .error .divisionByZero ↔ b = 0) ∧
    (value .mod = .error .divisionByZero ↔ b = 0) ∧
    (b ≠ 0 → value .floorDiv = fitted ⌊(a.toInt : ℚ) / b.toInt⌋) ∧
    (b ≠ 0 → ¬(a = Int64.minValue ∧ b = -1) →
      value .mod = fitted (a.toInt - b.toInt * ⌊(a.toInt : ℚ) / b.toInt⌋) ∧ StepsFit a b) ∧
    (a = Int64.minValue ∧ b = -1 → value .mod = .error (.badType .overflow)) := by
  intro value
  have hvalue (op : BinaryOp) : value op = arithmetic op a b := evalWith_binary op hl hr
  simp only [hvalue, arithmetic, map_eq_divisionByZero_iff]
  refine ⟨?_, ?_, ?_, ?_, ?_, ?_, ?_, ?_, ?_⟩
  · exact map_checked saddOverflow_iff BitVec.toInt_add_of_not_saddOverflow
  · exact map_checked ssubOverflow_iff BitVec.toInt_sub_of_not_ssubOverflow
  · exact map_checked smulOverflow_iff BitVec.toInt_mul_of_not_smulOverflow
  · rw [evalWith_unary .neg hl]
    exact map_checked negOverflow_iff BitVec.toInt_neg_of_not_negOverflow
  · exact floorDiv_eq_divisionByZero_iff
  · exact floorMod_eq_divisionByZero_iff
  · exact floorDiv_eq_fitted
  · intro hb h
    exact ⟨floorMod_eq_fitted hb h, stepsFit hb h⟩
  · intro h
    rw [floorMod_overflow h]
    rfl

/-- The least integer, divided by three. -/
theorem evalWith_integers_of_minValue :
    let ctx : Context := ⟨[[("a", .int Int64.minValue), ("b", .int 3)]]⟩
    let value op := (binary op (.name "a") (.name "b")).evalWith Function.apply ctx []
    (Expr.name "a").evalWith Function.apply ctx [0] = .ok (.int Int64.minValue) ∧
      (Expr.name "b").evalWith Function.apply ctx [1] = .ok (.int 3) ∧
      value .floorDiv = .ok (.int (-3074457345618258603)) ∧ value .mod = .ok (.int 1) ∧
      value .mul = .error (.badType .overflow) := by
  intro ctx value
  have ha : (Expr.name "a").evalWith Function.apply ctx [0] = .ok (.int Int64.minValue) := rfl
  have hb : (Expr.name "b").evalWith Function.apply ctx [1] = .ok (.int 3) := rfl
  obtain ⟨-, -, hmul, -, -, -, hdiv, hmod, -⟩ :=
    evalWith_integers Function.apply ctx [] (.name "a") (.name "b") _ _ ha hb
  have hfloor : ⌊(Int64.minValue.toInt : ℚ) / (3 : Int64).toInt⌋ = -3074457345618258603 :=
    floor_div_eq (by decide)
  specialize hdiv (by decide)
  specialize hmod (by decide) (by decide)
  rw [hfloor] at hdiv hmod
  exact ⟨ha, hb, hdiv, hmod.1, hmul⟩

/-- The remainder of the least integer by `-1` is zero, which fits, and an overflow is reported. -/
theorem evalWith_mod_minValue :
    let ctx : Context := ⟨[[("a", .int Int64.minValue), ("b", .int (-1))]]⟩
    (binary .mod (.name "a") (.name "b")).evalWith Function.apply ctx [] =
        .error (.badType .overflow) ∧
      (-1 : Int64) ≠ 0 ∧
      Int64.minValue.toInt -
        (-1 : Int64).toInt * ⌊(Int64.minValue.toInt : ℚ) / (-1 : Int64).toInt⌋ = 0 := by
  intro ctx
  have hfloor : ⌊(Int64.minValue.toInt : ℚ) / (-1 : Int64).toInt⌋ = 2 ^ 63 :=
    floor_div_eq (by decide)
  rw [hfloor]
  exact ⟨rfl, by decide, by decide⟩

end Expr

end Stencil
