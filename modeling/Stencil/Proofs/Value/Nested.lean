import Mathlib.Data.String.Basic
import Stencil.Value.Operation

/-!
# The order of nested strings

A string and a list cannot be compared, so the order of values that are made of these two is a
partial one, and whether it fails depends on how far two lists are alike. Where it does not fail it
is as good as a linear order: it does not fail in the other direction and is turned round there
(`order_swap`), it puts together just the values that `==` does (`order_eq_iff_equal`), and of three
values that go up the first and the last have an order as well (`order_then`).
-/

namespace Stencil

/-- The operators that compare by order. -/
def CompareOp.ordering : List CompareOp := [.lt, .le, .gt, .ge]

/-- The operator that says of two values in the other direction what this one says of them. -/
def CompareOp.flip : CompareOp → CompareOp
  | lt => gt
  | le => ge
  | gt => lt
  | ge => le
  | op => op

namespace Value

variable {a b c l r : Value} {as bs cs : List Value} {o p : Ordering} {op : CompareOp}

/-- A value made of strings and lists. -/
inductive Nested : Value → Prop
  | str (s : String) : Nested (str s)
  | list (i : Identity) {items : List Value} (h : ∀ v ∈ items, Nested v) : Nested (list i items)

/-- A list as an expression writes it. -/
def nest (items : List Value) : Value := list (.made []) items

theorem nested_nest {items : List Value} : Nested (nest items) ↔ ∀ v ∈ items, Nested v :=
  ⟨fun h => by cases h with | list _ h => exact h, .list _⟩

/-- Comparing strings goes together: two steps in one direction make one. -/
theorem compare_then {s t u : String} (hst : compare s t ≠ .gt) (htu : compare t u ≠ .gt) :
    compare s u = (compare s t).then (compare t u) := by
  cases h : compare s t with
  | lt => exact Std.TransCmp.lt_of_lt_of_isLE h (Ordering.isLE_iff_ne_gt.2 htu)
  | eq => rw [Std.TransCmp.congr_left h, Ordering.eq_then]
  | gt => exact absurd h hst

/-! ## Lists whose items are in order -/

/-- The first items decide if they differ. -/
theorem orderItems_cons_of_lt (h : order a b = .ok .lt) :
    orderItems (a :: as) (b :: bs) = .ok .lt := by
  rw [orderItems, h]

/-- The first items leave it to the rest if they are equal. -/
theorem orderItems_cons_of_eq (h : order a b = .ok .eq) :
    orderItems (a :: as) (b :: bs) = orderItems as bs := by
  rw [orderItems, h]

/-- What the order of the first items makes of the order of two lists. -/
theorem orderItems_cons_eq_ok (h : orderItems (a :: as) (b :: bs) = .ok o) :
    (order a b = .ok .eq ∧ orderItems as bs = .ok o) ∨ (order a b = .ok o ∧ o ≠ .eq) := by
  rw [orderItems] at h
  split at h
  · next heq => exact .inl ⟨heq, h⟩
  · next hne => exact .inr ⟨h, fun ho => hne (ho ▸ h)⟩

/-- Lists stand level exactly if they are equal, if that is so for their items. -/
theorem orderItems_eq_iff (h : ∀ a ∈ as, ∀ b ∈ bs, order a b = .ok .eq ↔ equal a b = true) :
    orderItems as bs = .ok .eq ↔ equalItems as bs = true := by
  induction as generalizing bs with
  | nil => cases bs <;> simp [orderItems, equalItems]
  | cons a as ih =>
    cases bs with
    | nil => simp [orderItems, equalItems]
    | cons b bs =>
      have hab := h a List.mem_cons_self b List.mem_cons_self
      have hrest :=
        ih fun a ha b hb => h a (List.mem_cons_of_mem _ ha) b (List.mem_cons_of_mem _ hb)
      rw [equalItems, Bool.and_eq_true, ← hab, ← hrest]
      constructor
      · intro hitems
        rcases orderItems_cons_eq_ok hitems with ⟨heq, hitems⟩ | ⟨-, hne⟩
        · exact ⟨heq, hitems⟩
        · exact absurd rfl hne
      · rintro ⟨heq, hitems⟩
        rw [orderItems_cons_of_eq heq, hitems]

/-- Lists swap their order with their places, if their items do. -/
theorem orderItems_swap
    (h : ∀ a ∈ as, ∀ b ∈ bs, ∀ o, order a b = .ok o → order b a = .ok o.swap)
    (ho : orderItems as bs = .ok o) : orderItems bs as = .ok o.swap := by
  induction as generalizing bs with
  | nil =>
    cases bs <;> obtain rfl := Except.ok.inj ho <;> rfl
  | cons a as ih =>
    cases bs with
    | nil =>
      obtain rfl := Except.ok.inj ho
      rfl
    | cons b bs =>
      have hab := h a List.mem_cons_self b List.mem_cons_self
      rcases orderItems_cons_eq_ok ho with ⟨heq, hitems⟩ | ⟨hne, hne'⟩
      · rw [orderItems_cons_of_eq (hab _ heq)]
        exact ih (fun a ha b hb => h a (List.mem_cons_of_mem _ ha) b (List.mem_cons_of_mem _ hb))
          hitems
      · rw [orderItems, hab _ hne]
        cases o <;> first | rfl | contradiction

/-- Two steps in one direction make one for lists, if they do for their items. -/
theorem orderItems_then
    (h : ∀ a ∈ as, ∀ b ∈ bs, ∀ c ∈ cs, ∀ o p, order a b = .ok o → order b c = .ok p → o ≠ .gt →
      p ≠ .gt → order a c = .ok (o.then p))
    (hab : orderItems as bs = .ok o) (hbc : orderItems bs cs = .ok p) (ho : o ≠ .gt)
    (hp : p ≠ .gt) : orderItems as cs = .ok (o.then p) := by
  induction as generalizing bs cs o p with
  | nil =>
    cases bs with
    | nil =>
      obtain rfl := Except.ok.inj hab
      rw [hbc, Ordering.eq_then]
    | cons b bs =>
      obtain rfl := Except.ok.inj hab
      cases cs with
      | nil => exact absurd (Except.ok.inj hbc).symm hp
      | cons c cs => rfl
  | cons a as ih =>
    cases bs with
    | nil => exact absurd (Except.ok.inj hab).symm ho
    | cons b bs =>
      cases cs with
      | nil => exact absurd (Except.ok.inj hbc).symm hp
      | cons c cs =>
        have hfirst := h a List.mem_cons_self b List.mem_cons_self c List.mem_cons_self
        rcases orderItems_cons_eq_ok hab with ⟨heq, hitems⟩ | ⟨hne, hne'⟩
        · rcases orderItems_cons_eq_ok hbc with ⟨heq', hitems'⟩ | ⟨hne, hne'⟩
          · rw [orderItems_cons_of_eq (hfirst _ _ heq heq' (by decide) (by decide))]
            exact ih (fun a ha b hb c hc => h a (List.mem_cons_of_mem _ ha) b
              (List.mem_cons_of_mem _ hb) c (List.mem_cons_of_mem _ hc)) hitems hitems' ho hp
          · obtain rfl : p = .lt := by cases p <;> first | rfl | contradiction
            have hac := hfirst _ _ heq hne (by decide) (by decide)
            have hthen : o.then .lt = .lt := by cases o <;> first | rfl | contradiction
            rw [orderItems_cons_of_lt hac, hthen]
        · obtain rfl : o = .lt := by cases o <;> first | rfl | contradiction
          obtain ⟨q, hq, hq'⟩ : ∃ q, order b c = .ok q ∧ q ≠ .gt := by
            rcases orderItems_cons_eq_ok hbc with ⟨heq, -⟩ | ⟨hne, -⟩
            · exact ⟨.eq, heq, by decide⟩
            · exact ⟨p, hne, hp⟩
          exact orderItems_cons_of_lt (hfirst _ _ hne hq ho hq')

/-! ## Values -/

/-- Nested values stand level exactly if they are equal. -/
theorem order_eq_iff_equal (ha : Nested a) (hb : Nested b) :
    order a b = .ok .eq ↔ equal a b = true := by
  induction ha generalizing b with
  | str s =>
    cases hb with
    | str t => simp [order, equal]
    | list j hbs => simp [order, equal, float?, number?]
  | list i has ih =>
    cases hb with
    | str t => simp [order, equal, float?, number?]
    | list j hbs =>
      rw [order, equal]
      exact orderItems_eq_iff fun a ha b hb => ih a ha (hbs b hb)

/-- Nested values swap their order with their places. -/
theorem order_swap (ha : Nested a) (hb : Nested b) (ho : order a b = .ok o) :
    order b a = .ok o.swap := by
  induction ha generalizing b o with
  | str s =>
    cases hb with
    | str t =>
      obtain rfl := Except.ok.inj ho
      have hswap : compare t s = (compare s t).swap := Std.OrientedCmp.eq_swap
      exact congrArg Except.ok hswap
    | list j hbs => simp [order, float?] at ho
  | list i has ih =>
    cases hb with
    | str t => simp [order, float?] at ho
    | list j hbs =>
      rw [order] at ho ⊢
      exact orderItems_swap (fun a ha b hb o => ih a ha (hbs b hb)) ho

/-- Two steps in one direction make one, and the values at the ends are comparable. -/
theorem order_then (ha : Nested a) (hb : Nested b) (hc : Nested c) (hab : order a b = .ok o)
    (hbc : order b c = .ok p) (ho : o ≠ .gt) (hp : p ≠ .gt) : order a c = .ok (o.then p) := by
  induction ha generalizing b c o p with
  | str s =>
    cases hb with
    | list j hbs => simp [order, float?] at hab
    | str t =>
      cases hc with
      | list k hcs => simp [order, float?] at hbc
      | str u =>
        obtain rfl := Except.ok.inj hab
        obtain rfl := Except.ok.inj hbc
        exact congrArg Except.ok (compare_then ho hp)
  | list i has ih =>
    cases hb with
    | str t => simp [order, float?] at hab
    | list j hbs =>
      cases hc with
      | str u => simp [order, float?] at hbc
      | list k hcs =>
        rw [order] at hab hbc ⊢
        exact orderItems_then (fun a ha b hb c hc o p => ih a ha (hbs b hb) (hcs c hc)) hab hbc
          ho hp

/-! ## Operators -/

/-- A comparison by order fails iff there is no order. -/
theorem exists_compares_iff (hop : op ∈ CompareOp.ordering) :
    (∃ x, l.compares op r = .ok x) ↔ ∃ o, l.order r = .ok o := by
  simp only [CompareOp.ordering, List.mem_cons, List.not_mem_nil, or_false] at hop
  rcases hop with rfl | rfl | rfl | rfl <;> cases h : l.order r <;> simp [compares, h, Except.map]

/-- The comparison holds. -/
def Holds (op : CompareOp) (l r : Value) : Prop := l.compares op r = .ok true

theorem holds_lt_iff : Holds .lt l r ↔ order l r = .ok .lt := by
  cases h : order l r with
  | error e => simp [Holds, compares, h, Except.map]
  | ok o => cases o <;> simp [Holds, compares, h, Except.map]

/-- Exactly one of `l < r`, `l == r` and `r < l` holds. -/
def Trichotomous (l r : Value) : Prop :=
  (Holds .lt l r ∧ ¬Holds .eq l r ∧ ¬Holds .lt r l) ∨
    (¬Holds .lt l r ∧ Holds .eq l r ∧ ¬Holds .lt r l) ∨
    (¬Holds .lt l r ∧ ¬Holds .eq l r ∧ Holds .lt r l)

/-- Exactly one relation holds between nested values that are comparable. -/
theorem trichotomous_of_nested (hl : Nested l) (hr : Nested r) (ho : l.order r = .ok o) :
    Trichotomous l r := by
  have hswap := order_swap hl hr ho
  have heq := order_eq_iff_equal hl hr
  rw [ho, Except.ok.injEq] at heq
  simp only [Trichotomous, Holds, compares, ho, hswap, Except.map, Except.ok.injEq, ← heq]
  cases o <;> simp

/-- The order of values that are made of strings and lists is consistent. If a comparison of `l`
with `r` by order does not fail, then exactly one of `l < r`, `l == r` and `r < l` holds, every
comparison of `r` with `l` gives what the opposite one of `l` with `r` gives, and `<=` and `>=` are
what `>` and `<` are not. If `l < m` and `m < n`, then `l < n`. -/
theorem compares_nested :
    (∀ l r, Nested l → Nested r → ∀ op ∈ CompareOp.ordering, (∃ x, l.compares op r = .ok x) →
      Trichotomous l r ∧
      (∀ op ∈ CompareOp.ordering, ∃ x, l.compares op r = .ok x ∧ r.compares op.flip l = .ok x) ∧
      (∃ x, l.compares .gt r = .ok x ∧ l.compares .le r = .ok !x) ∧
      ∃ x, l.compares .lt r = .ok x ∧ l.compares .ge r = .ok !x) ∧
    ∀ l m n, Nested l → Nested m → Nested n → Holds .lt l m → Holds .lt m n → Holds .lt l n := by
  constructor
  · intro l r hl hr op hop h
    obtain ⟨o, ho⟩ := (exists_compares_iff hop).1 h
    have hswap := order_swap hl hr ho
    refine ⟨trichotomous_of_nested hl hr ho, fun op hop => ?_, ?_, ?_⟩
    · simp only [CompareOp.ordering, List.mem_cons, List.not_mem_nil, or_false] at hop
      rcases hop with rfl | rfl | rfl | rfl <;> refine ⟨_, by rw [compares, ho]; rfl, ?_⟩ <;>
        rw [CompareOp.flip, compares, hswap] <;> cases o <;> rfl
    · exact ⟨_, by rw [compares, ho]; rfl, by rw [compares, ho]; rfl⟩
    · exact ⟨_, by rw [compares, ho]; rfl, by rw [compares, ho]; rfl⟩
  · intro l m n hl hm hn hlm hmn
    rw [holds_lt_iff] at hlm hmn ⊢
    exact order_then hl hm hn hlm hmn (by decide) (by decide)

/-- The items that decide may be deep inside, and behind them there may be items that are not
ordered. -/
theorem compares_nested_of_lists :
    let l := nest [nest [str "a", str "b"], str "x"]
    let m := nest [nest [str "a", str "c"], nest [str "y"]]
    let n := nest [nest [str "b"]]
    Nested l ∧ Nested m ∧ Nested n ∧ (∃ x, l.compares .ge m = .ok x) ∧ Trichotomous l m ∧
      Holds .lt l m ∧ Holds .lt m n ∧ Holds .lt l n := by
  intro l m n
  have hl : Nested l := by simp [l, nested_nest, Nested.str]
  have hm : Nested m := by simp [m, nested_nest, Nested.str]
  have hn : Nested n := by simp [n, nested_nest, Nested.str]
  have hge : ∃ x, l.compares .ge m = .ok x := ⟨false, by cbv⟩
  have hlm : Holds .lt l m := by unfold Holds; cbv
  have hmn : Holds .lt m n := by unfold Holds; cbv
  exact ⟨hl, hm, hn, hge, (compares_nested.1 l m hl hm .ge (by decide) hge).1, hlm, hmn,
    compares_nested.2 l m n hl hm hn hlm hmn⟩

end Value

end Stencil
