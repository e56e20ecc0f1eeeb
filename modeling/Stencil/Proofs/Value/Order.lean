import Stencil.Function.Apply
import Stencil.Proofs.Value.Rounding

/-!
# The order of integers

Equality tells all integers apart, but their order is that of floats (`exists_order_int`). Up to
`2 ^ 53` this makes no difference. Above that, different integers may be rounded to the same float,
and then none of them is less than the other although they are not equal. Lists are compared by
their items, and so they are ordered like the lists of the rounded numbers
(`exists_orderItems_int`). This is the order of the integers unless the first two that differ are
rounded to the same number (`Told`).
-/

namespace Stencil

namespace Value

variable {a b : Int64} {as bs : List Int64}

/-- The numbers that integers are rounded to. -/
def nearestAll (as : List Int64) : List Int := as.map fun a => nearest a.toInt

/-- Rounding tells the lists apart by the first items in which they differ, if there are such. -/
inductive Told : List Int64 → List Int64 → Prop
  | nil_left (bs : List Int64) : Told [] bs
  | nil_right (as : List Int64) : Told as []
  | here (a b : Int64) (as bs : List Int64) (h : nearest a.toInt ≠ nearest b.toInt) :
    Told (a :: as) (b :: bs)
  | there (a : Int64) (as bs : List Int64) (h : Told as bs) : Told (a :: as) (a :: bs)

/-- The ordering is the one of the two things. -/
@[mk_iff]
structure Orders {α : Type} [LT α] (o : Ordering) (x y : α) : Prop where
  lt : o = .lt ↔ x < y
  eq : o = .eq ↔ x = y
  gt : o = .gt ↔ y < x

section Orders

variable {o : Ordering} {x y : Int} {xs ys : List Int}

/-- One of two integers comes first, or they are equal. -/
theorem exists_orders (x y : Int) : ∃ o, Orders o x y := by
  rcases lt_trichotomy x y with h | h | h
  · exact ⟨.lt, by simp [orders_iff, h, h.ne, h.le]⟩
  · exact ⟨.eq, by simp [orders_iff, h]⟩
  · exact ⟨.gt, by simp [orders_iff, h, h.ne', h.le]⟩

/-- Two lists without elements stand in no order but equality. -/
theorem orders_nil : Orders o ([] : List Int) [] ↔ o = .eq := by
  cases o <;> simp [orders_iff]

/-- An empty list is less than any other. -/
theorem orders_nil_cons : Orders o [] (y :: ys) ↔ o = .lt := by
  cases o <;> simp [orders_iff]

/-- A list with elements comes after one that has none. -/
theorem orders_cons_nil : Orders o (x :: xs) [] ↔ o = .gt := by
  cases o <;> simp [orders_iff]

/-- Of two lists that begin with the same item the rest decides. -/
theorem orders_cons_self : Orders o (x :: xs) (x :: ys) ↔ Orders o xs ys := by
  simp [orders_iff]

/-- Of two lists that begin with different items these decide. -/
theorem orders_cons_of_ne (h : x ≠ y) : Orders o (x :: xs) (y :: ys) ↔ Orders o x y := by
  simp [orders_iff, List.cons_lt_cons_iff, h, h.symm]

end Orders

/-! ## The order of the machine -/

/-- Integers are always comparable, and they are compared after rounding. -/
theorem exists_order_int (a b : Int64) :
    ∃ o, order (int a) (int b) = .ok o ∧ Orders o (nearest a.toInt) (nearest b.toInt) := by
  obtain ⟨o, ho⟩ := exists_orders (nearest a.toInt) (nearest b.toInt)
  refine ⟨o, ?_, ho⟩
  change orderFloats (rounded a) (rounded b) = .ok o
  simp only [orderFloats, rounded_lt_iff, rounded_beq_iff, ← ho.lt, ← ho.eq, ← ho.gt]
  cases o <;> rfl

/-- Lists of integers are always comparable, element by element, after rounding. -/
theorem exists_orderItems_int (as bs : List Int64) :
    ∃ o, orderItems (as.map int) (bs.map int) = .ok o ∧
      Orders o (nearestAll as) (nearestAll bs) := by
  induction as generalizing bs with
  | nil =>
    cases bs with
    | nil => exact ⟨.eq, rfl, orders_nil.2 rfl⟩
    | cons b bs => exact ⟨.lt, rfl, orders_nil_cons.2 rfl⟩
  | cons a as ih =>
    cases bs with
    | nil => exact ⟨.gt, rfl, orders_cons_nil.2 rfl⟩
    | cons b bs =>
      obtain ⟨o, ho, horders⟩ := exists_order_int a b
      simp only [List.map_cons, orderItems, ho, nearestAll]
      by_cases h : nearest a.toInt = nearest b.toInt
      · rw [horders.eq.2 h, h]
        simp only [orders_cons_self]
        exact ih bs
      · refine ⟨o, ?_, (orders_cons_of_ne h).2 horders⟩
        have hne : o ≠ .eq := fun he => h (horders.eq.1 he)
        cases o <;> first | rfl | contradiction

/-- Lists of integers are equal as values exactly if they are the same list. -/
theorem equalItems_int (as bs : List Int64) :
    equalItems (as.map int) (bs.map int) = decide (as = bs) := by
  induction as generalizing bs with
  | nil => cases bs <;> simp [equalItems]
  | cons a as ih =>
    cases bs with
    | nil => simp [equalItems]
    | cons b bs =>
      simp only [List.map_cons, equalItems, equal, ih, List.cons.injEq, Bool.decide_and]
      rfl

/-! ## Where rounding makes no difference -/

/-- Where rounding tells two integers apart, it keeps their order. -/
theorem Orders.of_nearest {o : Ordering} (ho : Orders o (nearest a.toInt) (nearest b.toInt))
    (h : nearest a.toInt = nearest b.toInt → a = b) : Orders o a.toInt b.toInt := by
  obtain ⟨p, hp⟩ := exists_orders a.toInt b.toInt
  have hne (hab : a.toInt ≠ b.toInt) : nearest a.toInt ≠ nearest b.toInt :=
    fun he => hab (congrArg Int64.toInt (h he))
  have hop : o = p := by
    cases p with
    | lt =>
      have hlt := hp.lt.1 rfl
      exact ho.lt.2 (lt_of_le_of_ne (nearest_mono hlt.le) (hne hlt.ne))
    | eq => exact ho.eq.2 (congrArg nearest (hp.eq.1 rfl))
    | gt =>
      have hgt := hp.gt.1 rfl
      exact ho.gt.2 (lt_of_le_of_ne (nearest_mono hgt.le) (hne hgt.ne').symm)
  rwa [hop]

/-- Where rounding tells apart what differs, the order after rounding is the order before it. -/
theorem Told.orders {o : Ordering} (h : Told as bs)
    (ho : Orders o (nearestAll as) (nearestAll bs)) :
    Orders o (as.map Int64.toInt) (bs.map Int64.toInt) := by
  induction h with
  | nil_left bs =>
    cases bs with
    | nil => exact ho
    | cons b bs => exact orders_nil_cons.2 (orders_nil_cons.1 ho)
  | nil_right as =>
    cases as with
    | nil => exact ho
    | cons a as => exact orders_cons_nil.2 (orders_cons_nil.1 ho)
  | here a b as bs h =>
    have hne : a.toInt ≠ b.toInt := fun he => h (congrArg nearest he)
    rw [List.map_cons, List.map_cons, orders_cons_of_ne hne]
    exact ((orders_cons_of_ne h).1 ho).of_nearest fun he => absurd he h
  | there a as bs h ih =>
    rw [List.map_cons, List.map_cons, orders_cons_self]
    exact ih (orders_cons_self.1 ho)

/-- Up to `2 ^ 53` rounding changes no integer. -/
theorem told_of_natAbs_le (ha : ∀ a ∈ as, a.toInt.natAbs ≤ 2 ^ 53)
    (hb : ∀ b ∈ bs, b.toInt.natAbs ≤ 2 ^ 53) : Told as bs := by
  induction as generalizing bs with
  | nil => exact .nil_left bs
  | cons a as ih =>
    cases bs with
    | nil => exact .nil_right (a :: as)
    | cons b bs =>
      rw [List.forall_mem_cons] at ha hb
      by_cases h : a = b
      · subst h
        exact .there a as bs (ih ha.2 hb.2)
      · refine .here a b as bs ?_
        rw [nearest_eq_self ha.1, nearest_eq_self hb.1]
        exact fun he => h (Int64.toInt_inj.1 he)

end Value

namespace Expr

open Value

variable {apply : Application} {ctx : Context} {site : Site} {l r : Expr} {v w : Value}

/-- The values of the comparisons of `l` with `r`. -/
def comparison (apply : Application) (ctx : Context) (site : Site) (l r : Expr) (op : CompareOp) :
    Except EvalError Value :=
  (compare l [(op, r)]).evalWith apply ctx site

/-- A chain with one comparison gives what this comparison gives. -/
theorem evalChain_singleton (op : CompareOp) (hr : r.evalWith apply ctx (0 :: site) = .ok w) :
    evalChain apply ctx site v [(op, r)] = v.compares op w := by
  rw [evalChain, hr]
  change (do if ← v.compares op w then evalChain apply ctx (1 :: site) w [] else return false) = _
  cases v.compares op w with
  | error e => rfl
  | ok holds => cases holds <;> rfl

/-- A comparison of two operands that have values compares these values. -/
theorem comparison_eq (op : CompareOp) (hl : l.evalWith apply ctx (0 :: site) = .ok v)
    (hr : r.evalWith apply ctx (0 :: 1 :: site) = .ok w) :
    comparison apply ctx site l r op = (v.compares op w).map .bool := by
  rw [comparison, evalWith, hl]
  change (do return Value.bool (← evalChain apply ctx (1 :: site) v [(op, r)])) = _
  rw [evalChain_singleton op hr]
  cases v.compares op w <;> rfl

section Relations

variable {α : Type} [LT α] [LE α] [DecidableLT α] [DecidableLE α] {x y : α} {o : Ordering}
  {value : CompareOp → Except EvalError Value}

/-- The operators of order say of two values what holds of `x` and `y`. -/
structure OrderedAs (value : CompareOp → Except EvalError Value) (x y : α) : Prop where
  lt : value .lt = .ok (.bool (x < y))
  le : value .le = .ok (.bool (x ≤ y))
  gt : value .gt = .ok (.bool (x > y))
  ge : value .ge = .ok (.bool (x ≥ y))

/-- The operators of order and equality say of two values what holds of `x` and `y`. -/
structure ComparedAs [DecidableEq α] (value : CompareOp → Except EvalError Value) (x y : α) : Prop
    extends OrderedAs value x y where
  eq : value .eq = .ok (.bool (x = y))

/-- Exactly one of `<`, `==` and `>` holds. -/
def Trichotomy (value : CompareOp → Except EvalError Value) : Prop :=
  ∃! op, op ∈ [CompareOp.lt, .eq, .gt] ∧ value op = .ok (.bool true)

/-- None of `<`, `==` and `>` holds. -/
def Unrelated (value : CompareOp → Except EvalError Value) : Prop :=
  ∀ op ∈ [CompareOp.lt, .eq, .gt], value op = .ok (.bool false)

/-- Values that are unrelated violate trichotomy: none of the three relations holds. -/
theorem Unrelated.not_trichotomy (h : Unrelated value) : ¬Trichotomy value := by
  rintro ⟨op, ⟨hop, htrue⟩, -⟩
  rw [h op hop] at htrue
  cases htrue

theorem orderedAs_of_orders (hl : l.evalWith apply ctx (0 :: site) = .ok v)
    (hr : r.evalWith apply ctx (0 :: 1 :: site) = .ok w) (ho : v.order w = .ok o)
    (h : Orders o x y) (hle : ∀ x y : α, ¬y < x ↔ x ≤ y) :
    OrderedAs (comparison apply ctx site l r) x y := by
  have hlt : (o == .lt) = decide (x < y) := by rw [beq_eq_decide, decide_eq_decide, h.lt]
  have hgt : (o == .gt) = decide (x > y) := by rw [beq_eq_decide, decide_eq_decide, h.gt]
  have hle' : (o != .gt) = decide (x ≤ y) := by rw [bne, hgt, ← decide_not, decide_eq_decide, hle]
  have hge : (o != .lt) = decide (y ≤ x) := by rw [bne, hlt, ← decide_not, decide_eq_decide, hle]
  constructor
  · rw [comparison_eq .lt hl hr, compares, ho, ← hlt]
    rfl
  · rw [comparison_eq .le hl hr, compares, ho, ← hle']
    rfl
  · rw [comparison_eq .gt hl hr, compares, ho, ← hgt]
    rfl
  · rw [comparison_eq .ge hl hr, compares, ho, ← hge]
    rfl

/-- Where equality is that of the things that are ordered, exactly one of the three holds. -/
theorem ComparedAs.trichotomy [DecidableEq α] (h : ComparedAs value x y) (ho : Orders o x y) :
    Trichotomy value := by
  have hlt := h.lt
  have heq := h.eq
  have hgt := h.gt
  simp only [← ho.lt, ← ho.eq, ← ho.gt] at hlt heq hgt
  cases o with
  | lt => exact ⟨.lt, ⟨by simp, hlt⟩, by simp [hlt, heq, hgt]⟩
  | eq => exact ⟨.eq, ⟨by simp, heq⟩, by simp [hlt, heq, hgt]⟩
  | gt => exact ⟨.gt, ⟨by simp, hgt⟩, by simp [hlt, heq, hgt]⟩

/-- Where the things that are ordered are the same but equality fails, none of the three holds. -/
theorem OrderedAs.unrelated (h : OrderedAs value x y) (hlt : ¬x < y) (hgt : ¬y < x)
    (heq : value .eq = .ok (.bool false)) : Unrelated value := by
  have hvlt := h.lt
  have hvgt := h.gt
  rw [decide_eq_false hlt] at hvlt
  rw [decide_eq_false hgt] at hvgt
  simp [Unrelated, hvlt, heq, hvgt]

end Relations

section Integers

variable {a b : Int64} {as bs : List Int64} {i j : Identity}

/-- Comparisons of integers are those of the floats that are nearest to them. -/
theorem orderedAs_int (hl : l.evalWith apply ctx (0 :: site) = .ok (.int a))
    (hr : r.evalWith apply ctx (0 :: 1 :: site) = .ok (.int b)) :
    OrderedAs (comparison apply ctx site l r) (nearest a.toInt) (nearest b.toInt) := by
  obtain ⟨o, ho, horders⟩ := exists_order_int a b
  exact orderedAs_of_orders hl hr ho horders fun _ _ => Int.not_lt

/-- Equality of integers is exact: nothing is rounded. -/
theorem comparison_eq_int (hl : l.evalWith apply ctx (0 :: site) = .ok (.int a))
    (hr : r.evalWith apply ctx (0 :: 1 :: site) = .ok (.int b)) :
    comparison apply ctx site l r .eq = .ok (.bool (a = b)) := by
  rw [comparison_eq .eq hl hr, compares, equal]
  rfl

/-- Different integers that are rounded to the same number are not related. -/
theorem unrelated_int (hl : l.evalWith apply ctx (0 :: site) = .ok (.int a))
    (hr : r.evalWith apply ctx (0 :: 1 :: site) = .ok (.int b))
    (h : nearest a.toInt = nearest b.toInt) (hne : a ≠ b) :
    Unrelated (comparison apply ctx site l r) := by
  have heq := comparison_eq_int hl hr
  rw [decide_eq_false hne] at heq
  exact (orderedAs_int hl hr).unrelated h.not_lt h.not_gt heq

/-- Two integers that rounding tells apart compare like the integers that they are. -/
theorem comparedAs_int (hl : l.evalWith apply ctx (0 :: site) = .ok (.int a))
    (hr : r.evalWith apply ctx (0 :: 1 :: site) = .ok (.int b))
    (h : nearest a.toInt = nearest b.toInt → a = b) :
    ComparedAs (comparison apply ctx site l r) a.toInt b.toInt ∧
      Trichotomy (comparison apply ctx site l r) := by
  obtain ⟨o, ho, hrounded⟩ := exists_order_int a b
  have horders := hrounded.of_nearest h
  have hordered := orderedAs_of_orders hl hr ho horders fun _ _ => Int.not_lt
  have hcompared : ComparedAs (comparison apply ctx site l r) a.toInt b.toInt := by
    refine ⟨hordered, ?_⟩
    simp only [comparison_eq_int hl hr, Int64.toInt_inj]
  exact ⟨hcompared, hcompared.trichotomy horders⟩

/-- Comparisons of lists of integers are those of the lists of floats nearest to them. -/
theorem orderedAs_list (hl : l.evalWith apply ctx (0 :: site) = .ok (.list i (as.map .int)))
    (hr : r.evalWith apply ctx (0 :: 1 :: site) = .ok (.list j (bs.map .int))) :
    OrderedAs (comparison apply ctx site l r) (nearestAll as) (nearestAll bs) := by
  obtain ⟨o, ho, horders⟩ := exists_orderItems_int as bs
  exact orderedAs_of_orders hl hr ho horders fun _ _ => not_lt

/-- Equality of lists of integers is exact: nothing is rounded. -/
theorem comparison_eq_list (hl : l.evalWith apply ctx (0 :: site) = .ok (.list i (as.map .int)))
    (hr : r.evalWith apply ctx (0 :: 1 :: site) = .ok (.list j (bs.map .int))) :
    comparison apply ctx site l r .eq = .ok (.bool (as = bs)) := by
  rw [comparison_eq .eq hl hr, compares, equal, equalItems_int]
  rfl

/-- Different lists that are rounded to the same one are not related. -/
theorem unrelated_list (hl : l.evalWith apply ctx (0 :: site) = .ok (.list i (as.map .int)))
    (hr : r.evalWith apply ctx (0 :: 1 :: site) = .ok (.list j (bs.map .int)))
    (h : nearestAll as = nearestAll bs) (hne : as ≠ bs) :
    Unrelated (comparison apply ctx site l r) := by
  have heq := comparison_eq_list hl hr
  rw [decide_eq_false hne] at heq
  exact (orderedAs_list hl hr).unrelated h.not_lt h.not_gt heq

/-- Two lists that rounding tells apart compare like the lists of integers that they are. -/
theorem comparedAs_list (hl : l.evalWith apply ctx (0 :: site) = .ok (.list i (as.map .int)))
    (hr : r.evalWith apply ctx (0 :: 1 :: site) = .ok (.list j (bs.map .int)))
    (h : Told as bs) :
    ComparedAs (comparison apply ctx site l r) (as.map Int64.toInt) (bs.map Int64.toInt) ∧
      Trichotomy (comparison apply ctx site l r) := by
  obtain ⟨o, ho, hrounded⟩ := exists_orderItems_int as bs
  have horders := h.orders hrounded
  have hordered := orderedAs_of_orders hl hr ho horders fun _ _ => not_lt
  have hinj := List.map_injective_iff.2 fun _ _ => Int64.toInt_inj.1
  have hcompared :
      ComparedAs (comparison apply ctx site l r) (as.map Int64.toInt) (bs.map Int64.toInt) := by
    refine ⟨hordered, ?_⟩
    simp only [comparison_eq_list hl hr, hinj.eq_iff]
  exact ⟨hcompared, hcompared.trichotomy horders⟩

end Integers

/-- Comparisons of integers, and of lists of integers, compare the numbers that they are rounded to,
but `==` compares the integers themselves. For two integers this is their order, and exactly one of
`<`, `==` and `>` holds, iff they are equal or are rounded to different numbers. For two lists it is
so if it is for the first items in which they differ, as it always is up to `2 ^ 53`. -/
theorem comparison_integers (apply : Application) (ctx : Context) (site : Site) (l r : Expr) :
    let value := comparison apply ctx site l r
    (∀ a b, l.evalWith apply ctx (0 :: site) = .ok (.int a) →
      r.evalWith apply ctx (0 :: 1 :: site) = .ok (.int b) →
        OrderedAs value (nearest a.toInt) (nearest b.toInt) ∧
        value .eq = .ok (.bool (a = b)) ∧
        ((nearest a.toInt = nearest b.toInt → a = b) ↔ ComparedAs value a.toInt b.toInt) ∧
        ((nearest a.toInt = nearest b.toInt → a = b) ↔ Trichotomy value)) ∧
    (∀ i j as bs, l.evalWith apply ctx (0 :: site) = .ok (.list i (as.map .int)) →
      r.evalWith apply ctx (0 :: 1 :: site) = .ok (.list j (bs.map .int)) →
        OrderedAs value (nearestAll as) (nearestAll bs) ∧
        value .eq = .ok (.bool (as = bs)) ∧
        (nearestAll as = nearestAll bs → as ≠ bs → Unrelated value) ∧
        (Told as bs → ComparedAs value (as.map Int64.toInt) (bs.map Int64.toInt) ∧
          Trichotomy value)) ∧
    ∀ as bs : List Int64, (∀ a ∈ as, a.toInt.natAbs ≤ 2 ^ 53) →
      (∀ b ∈ bs, b.toInt.natAbs ≤ 2 ^ 53) → Told as bs := by
  intro value
  refine ⟨?_, ?_, fun as bs => told_of_natAbs_le⟩
  · intro a b hl hr
    have hkept (h : Trichotomy value) : nearest a.toInt = nearest b.toInt → a = b := by
      intro hsame
      by_contra hne
      exact (unrelated_int hl hr hsame hne).not_trichotomy h
    refine ⟨orderedAs_int hl hr, comparison_eq_int hl hr, ⟨fun h => (comparedAs_int hl hr h).1, ?_⟩,
      fun h => (comparedAs_int hl hr h).2, hkept⟩
    intro h
    obtain ⟨o, ho⟩ := exists_orders a.toInt b.toInt
    exact hkept (h.trichotomy ho)
  · intro i j as bs hl hr
    exact ⟨orderedAs_list hl hr, comparison_eq_list hl hr, unrelated_list hl hr,
      comparedAs_list hl hr⟩

/-- Two integers that rounding tells apart, alone and as the second items of lists. -/
theorem comparison_integers_of_kept :
    let ctx : Context := ⟨[[("a", .int 9007199254740991), ("b", .int 9007199254740992),
      ("as", .list (.given [0]) [.int 0, .int 9007199254740991]),
      ("bs", .list (.given [1]) [.int 0, .int 9007199254740992])]]⟩
    let value l r := comparison Function.apply ctx [] (.name l) (.name r)
    value "a" "b" .lt = .ok (.bool true) ∧ Trichotomy (value "a" "b") ∧
      value "as" "bs" .lt = .ok (.bool true) ∧ Trichotomy (value "as" "bs") := by
  intro ctx value
  obtain ⟨-, -, hcompared, htrichotomy⟩ :=
    (comparison_integers Function.apply ctx [] (.name "a") (.name "b")).1
      9007199254740991 9007199254740992 rfl rfl
  obtain ⟨-, -, -, hlists⟩ :=
    (comparison_integers Function.apply ctx [] (.name "as") (.name "bs")).2.1
      (.given [0]) (.given [1]) [0, 9007199254740991] [0, 9007199254740992] rfl rfl
  have htold : Told [0, 9007199254740991] [0, 9007199254740992] :=
    .there 0 _ _ (.here _ _ [] [] (by decide))
  have hkept : nearest (9007199254740991 : Int64).toInt = nearest (9007199254740992 : Int64).toInt →
      (9007199254740991 : Int64) = 9007199254740992 := by decide
  exact ⟨(hcompared.1 hkept).lt, htrichotomy.1 hkept, (hlists htold).1.lt, (hlists htold).2⟩

/-- Two integers that rounding does not tell apart: the first is less than the second, and none of
the three relations holds of them, nor of the lists of one item each. -/
theorem comparison_rounded :
    let ctx : Context := ⟨[[("as", .list (.given [0]) [.int 9007199254740992]),
      ("bs", .list (.given [1]) [.int 9007199254740993])]]⟩
    let literal n : Expr := .literal (.int n)
    let numbers := comparison Function.apply ctx [] (literal 9007199254740992)
      (literal 9007199254740993)
    let lists := comparison Function.apply ctx [] (.name "as") (.name "bs")
    (9007199254740992 : Int64).toInt < (9007199254740993 : Int64).toInt ∧
      Unrelated numbers ∧ Unrelated lists := by
  intro ctx literal numbers lists
  refine ⟨by decide, ?_, ?_⟩
  · exact unrelated_int rfl rfl (by decide) (by decide)
  · have has : (Expr.name "as").evalWith Function.apply ctx [0] =
        .ok (.list (.given [0]) ([9007199254740992].map .int)) := rfl
    have hbs : (Expr.name "bs").evalWith Function.apply ctx [0, 1] =
        .ok (.list (.given [1]) ([9007199254740993].map .int)) := rfl
    exact unrelated_list has hbs (by decide) (by decide)

end Expr

end Stencil
