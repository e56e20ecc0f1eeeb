import Mathlib.Logic.Basic
import Stencil.Proofs.Value.Equality
import Stencil.Value.Operation
import Stencil.Value.Text

/-!
# Renaming objects

Identities are compared and are never looked into. So if the objects in values get other identities,
and different objects different ones, then operations on the values do the same as before: whether
two values are equal or identical, which is less and what a value says does not change, and a value
that an operation yields is the renamed one.
-/

namespace Stencil

namespace Bindings

variable {α β : Type}

/-- Changing what names are bound to does not change which binding counts. -/
theorem get?_map (name : String) (g : α → β) (bs : Bindings α) :
    get? name (bs.map (Prod.map id g)) = (get? name bs).map g := by
  induction bs with
  | nil => rfl
  | cons b bs ih =>
    rw [List.map_cons, Prod.map, get?_cons, get?_cons, ih, Option.map_or]
    split <;> simp_all

end Bindings

namespace Value

mutual

/-- The value with other identities for its objects. -/
def rename (f : Identity → Identity) : Value → Value
  | list id items => list (f id) (renameItems f items)
  | set id items => set (f id) (renameItems f items)
  | record id fields => record (f id) (renameFields f fields)
  | callable id g => callable (f id) g
  | null => null
  | bool b => bool b
  | int n => int n
  | float x => float x
  | str s => str s

/-- The items with other identities for the objects in them. -/
def renameItems (f : Identity → Identity) : List Value → List Value
  | [] => []
  | v :: vs => rename f v :: renameItems f vs

/-- The fields with other identities for the objects in them. -/
def renameFields (f : Identity → Identity) : List (String × Value) → List (String × Value)
  | [] => []
  | (n, v) :: fs => (n, rename f v) :: renameFields f fs

end

variable {f : Identity → Identity} {a b v w : Value} {as bs items : List Value}
  {fields : Bindings Value}

@[simp] theorem renameItems_eq_map : renameItems f items = items.map (rename f) := by
  induction items with
  | nil => rfl
  | cons v vs ih => rw [renameItems, ih, List.map_cons]

@[simp] theorem renameFields_eq_map :
    renameFields f fields = fields.map (Prod.map id (rename f)) := by
  induction fields with
  | nil => rfl
  | cons field fields ih =>
    obtain ⟨n, v⟩ := field
    rw [renameFields, ih, List.map_cons, Prod.map, id]

attribute [simp] rename

/-! ## What a renamed value is -/

@[simp] theorem kind_rename (v : Value) : (v.rename f).kind = v.kind := by
  cases v <;> simp [kind]

@[simp] theorem isNull_rename (v : Value) : (v.rename f).isNull = v.isNull := by
  cases v <;> simp [isNull]

@[simp] theorem truthy_rename (v : Value) : (v.rename f).truthy = v.truthy := by
  cases v <;> simp [truthy]

@[simp] theorem integer?_rename (v : Value) : (v.rename f).integer? = v.integer? := by
  cases v <;> simp [integer?]

@[simp] theorem fields_rename (v : Value) :
    (v.rename f).fields = v.fields.map (Prod.map id (rename f)) := by
  cases v <;> simp [Value.fields]

/-- A field of the renamed record is the renamed field. -/
@[simp] theorem field?_rename (name : String) (v : Value) :
    (v.rename f).field? name = (v.field? name).map (rename f) := by
  rw [field?, field?, fields_rename, Bindings.get?_map]

/-! ## Texts -/

theorem itemTexts_eq_map : itemTexts items = items.map innerText := by
  induction items with
  | nil => rfl
  | cons v vs ih => rw [itemTexts, ih, List.map_cons]

theorem fieldTexts_eq_map :
    fieldTexts fields = fields.map fun (n, v) => n ++ ": " ++ innerText v := by
  induction fields with
  | nil => rfl
  | cons field fields ih => rw [fieldTexts, ih, List.map_cons]

/-- Identities are never written. -/
@[simp] theorem innerText_rename (v : Value) : (v.rename f).innerText = v.innerText := by
  induction v using induction_parts with
  | step v ih =>
    cases v with
    | list id items | set id items =>
      have hitems : items.map (innerText ∘ rename f) = items.map innerText :=
        List.map_congr_left ih
      simp only [rename, renameItems_eq_map, innerText, itemTexts_eq_map, List.map_map, hitems]
    | record id fields =>
      simp only [rename, renameFields_eq_map, innerText, fieldTexts_eq_map, List.map_map]
      congr 3
      refine List.map_congr_left fun field hfield => ?_
      simp [ih field.2 (mem_parts_record hfield)]
    | _ => simp [innerText]

@[simp] theorem text_rename (v : Value) : (v.rename f).text = v.text := by
  cases v with
  | null | str s => rfl
  | _ =>
    rw [text, text, innerText_rename]
    all_goals simp

/-- Values in a row amount to the renamed value; what is written of them is the same. -/
theorem join_rename (vs : List Value) : join (vs.map (rename f)) = (join vs).rename f := by
  match vs with
  | [] => rfl
  | [v] => rfl
  | v :: w :: vs => simp [join, Function.comp_def]

/-! ## Comparisons -/

/-- Lists are as equal as before if their items are. -/
theorem equalItems_rename
    (h : ∀ a ∈ as, ∀ b ∈ bs, equal (a.rename f) (b.rename f) = equal a b) :
    equalItems (as.map (rename f)) (bs.map (rename f)) = equalItems as bs := by
  induction as generalizing bs with
  | nil => cases bs <;> simp [equalItems]
  | cons a as ih =>
    cases bs with
    | nil => simp [equalItems]
    | cons b bs =>
      simp only [List.map_cons, equalItems, h a (.head as) b (.head bs),
        ih fun a ha b hb => h a (.tail _ ha) b (.tail _ hb)]

/-- Records are as equal as before if their fields are. -/
theorem equalFields_rename {fs gs : Bindings Value}
    (h : ∀ m ∈ fs, ∀ n ∈ gs, equal (m.2.rename f) (n.2.rename f) = equal m.2 n.2) :
    equalFields (fs.map (Prod.map id (rename f))) (gs.map (Prod.map id (rename f))) =
      equalFields fs gs := by
  induction fs generalizing gs with
  | nil => cases gs <;> simp [equalFields]
  | cons m fs ih =>
    cases gs with
    | nil => simp [equalFields]
    | cons n gs =>
      have hfirst := h m (.head fs) n (.head gs)
      obtain ⟨m, v⟩ := m
      obtain ⟨n, w⟩ := n
      simp only [List.map_cons, equalFields, Prod.map, id, hfirst,
        ih fun m hm n hn => h m (.tail _ hm) n (.tail _ hn)]

/-- An item is found among renamed items if it was found before. -/
theorem within_rename (h : ∀ a ∈ as, equal (a.rename f) (v.rename f) = equal a v) :
    within (v.rename f) (as.map (rename f)) = within v as := by
  simp only [within_eq_any, List.any_map]
  rw [Bool.eq_iff_iff, List.any_eq_true, List.any_eq_true]
  simp only [Function.comp]
  exact exists_congr fun a => and_congr_right fun ha => by rw [h a ha]

/-- A set covers another one as before if its items are as equal as before. -/
theorem coveredBy_rename (h : ∀ b ∈ bs, ∀ a ∈ as, equal (b.rename f) (a.rename f) = equal b a) :
    coveredBy (as.map (rename f)) (bs.map (rename f)) = coveredBy as bs := by
  simp only [coveredBy_eq_all, List.all_map]
  rw [Bool.eq_iff_iff, List.all_eq_true, List.all_eq_true]
  refine forall₂_congr fun a ha => ?_
  rw [Function.comp, within_rename fun b hb => h b hb a ha]

/-- Two values are equal after a renaming that keeps different objects different just if they were
before. Only functions are compared by identity here. -/
theorem equal_rename (hf : Function.Injective f) (a b : Value) :
    equal (a.rename f) (b.rename f) = equal a b := by
  have ih (u : Value) (hu : u ∈ a.parts) (v : Value) (hv : v ∈ b.parts) :
      equal (u.rename f) (v.rename f) = equal u v := by
    have := sizeOf_lt_of_mem_parts hu
    have := sizeOf_lt_of_mem_parts hv
    exact equal_rename hf u v
  -- Sets are searched for each other's items, and then the second value's items come first.
  have ih' (v : Value) (hv : v ∈ b.parts) (u : Value) (hu : u ∈ a.parts) :
      equal (v.rename f) (u.rename f) = equal v u := by
    have := sizeOf_lt_of_mem_parts hu
    have := sizeOf_lt_of_mem_parts hv
    exact equal_rename hf v u
  cases a with
  | list i as =>
    cases b with
    | list j bs =>
      simp only [rename, renameItems_eq_map, equal]
      exact equalItems_rename ih
    | _ => simp [equal, number?]
  | set i as =>
    cases b with
    | set j bs =>
      have hcovered : coveredBy (as.map (rename f)) (bs.map (rename f)) = coveredBy as bs :=
        coveredBy_rename ih'
      simp only [rename, renameItems_eq_map, equal, List.length_map, hcovered]
    | _ => simp [equal, number?]
  | record i fs =>
    cases b with
    | record j gs =>
      simp only [rename, renameFields_eq_map, equal]
      exact equalFields_rename fun m hm n hn => ih _ (mem_parts_record hm) _ (mem_parts_record hn)
    | _ => simp [equal, number?]
  | callable i g =>
    cases b with
    | callable j h => simp [equal, hf.eq_iff]
    | _ => simp [equal, number?]
  | _ => cases b <;> simp [equal, number?]
termination_by sizeOf a + sizeOf b

/-- Two names stand for the same object just if they did before. -/
theorem identical_rename (hf : Function.Injective f) (a b : Value) :
    identical (a.rename f) (b.rename f) = identical a b := by
  cases a <;> cases b <;> simp [identical, hf.eq_iff]

/-- Lists are ordered as before if their items are. -/
theorem orderItems_rename (h : ∀ a ∈ as, ∀ b, order (a.rename f) (b.rename f) = order a b) :
    orderItems (as.map (rename f)) (bs.map (rename f)) = orderItems as bs := by
  induction as generalizing bs with
  | nil => cases bs <;> rfl
  | cons a as ih =>
    cases bs with
    | nil => rfl
    | cons b bs =>
      simp only [List.map_cons, orderItems, h a (.head as) b, ih fun a ha => h a (.tail _ ha)]

/-- No order looks at identities. -/
theorem order_rename (a b : Value) : order (a.rename f) (b.rename f) = order a b := by
  induction a using induction_parts generalizing b with
  | step a ih =>
    cases a with
    | list i as =>
      cases b with
      | list j bs =>
        simp only [rename, renameItems_eq_map, order]
        exact orderItems_rename ih
      | _ => simp [order, float?, kind]
    | _ => cases b <;> simp [order, float?, kind]

/-- A container holds the renamed item just if it held the item. -/
theorem contains_rename (hf : Function.Injective f) (container item : Value) :
    (container.rename f).contains (item.rename f) = container.contains item := by
  cases container with
  | list id items | set id items =>
    simp only [rename, renameItems_eq_map, contains,
      within_rename fun a _ => equal_rename hf a item]
  | str s => cases item <;> simp [contains, kind]
  | record id fields =>
    cases item with
    | str name => simp [contains, Bindings.get?_map]
    | _ => simp [contains]
  | _ => simp [contains, kind]

/-- Every comparison comes out as before, with the same errors. -/
theorem compares_rename (hf : Function.Injective f) (op : CompareOp) (l r : Value) :
    (l.rename f).compares op (r.rename f) = l.compares op r := by
  cases op <;>
    simp only [compares, equal_rename hf, order_rename, contains_rename hf, identical_rename hf]

/-! ## Parts and arithmetic -/

/-- The field of a renamed value is renamed, and a missing one is missing. -/
theorem access_rename (v : Value) (field : String) :
    (v.rename f).access field = (v.access field).map (rename f) := by
  rw [access, access, field?_rename, kind_rename]
  cases v.field? field <;> rfl

/-- The element at an index is renamed, and the index is checked as before. -/
theorem element_rename (items : List Value) (index : Int64) :
    element (items.map (rename f)) index = (element items index).map (rename f) := by
  simp only [element, List.length_map, List.getElem?_map]
  generalize (if index.toInt < 0 then index.toInt + (items.length : Int) else index.toInt) = i
  split
  · cases items[i.toNat]? <;> rfl
  · rfl

/-- What an index selects is renamed. Of an index only its number or its name counts. -/
theorem subscript_rename (v index : Value) :
    (v.rename f).subscript (index.rename f) = (v.subscript index).map (rename f) := by
  cases v with
  | list id items =>
    simp only [rename, renameItems_eq_map, subscript, integer?_rename, kind_rename]
    cases index.integer? with
    | none => rfl
    | some i => exact element_rename items i
  | str s =>
    simp only [rename, subscript, integer?_rename, kind_rename]
    cases index.integer? with
    | none => rfl
    | some i => rw [← element_rename, List.map_map]; rfl
  | record id fields =>
    cases index with
    | str name => exact access_rename (record id fields) name
    | _ => rfl
  | _ => rfl

/-- The numbers that arithmetic yields are no objects. -/
theorem map_rename_arithmetic (op : BinaryOp) (m n : Int64) :
    (arithmetic op m n).map (rename f) = arithmetic op m n := by
  cases op with
  | div => rw [arithmetic]; split <;> rfl
  | add | sub | mul => rw [arithmetic]; cases checked _ _ <;> rfl
  | floorDiv => rw [arithmetic]; cases floorDiv m n <;> rfl
  | mod => rw [arithmetic]; cases floorMod m n <;> rfl

theorem map_rename_floatArithmetic (op : BinaryOp) (x y : Float) :
    (floatArithmetic op x y).map (rename f) = floatArithmetic op x y := by
  cases op with
  | add | sub | mul => rfl
  | _ => rw [floatArithmetic]; split <;> rfl

/-- There is nothing to rename in a string that is repeated. -/
theorem map_rename_repeated (s : String) (n : Int64) :
    (repeated s n).map (rename f) = repeated s n := by
  simp only [repeated]
  split <;> rfl

/-- An operator in front of a value makes no object. -/
theorem unary_rename (op : UnaryOp) (v : Value) :
    (v.rename f).unary op = (v.unary op).map (rename f) := by
  cases op with
  | not => simp [unary, Except.map]
  | pos => cases v <;> rfl
  | neg =>
    cases v with
    | int n => simp only [rename, unary]; cases checked _ _ <;> rfl
    | _ => rfl

/-- An operator between two values makes at most one object, a list, which is renamed like whatever
is made at the site. -/
theorem binary_rename {s t : Site} (h : f (.made s) = .made t) (op : BinaryOp) (l r : Value) :
    (l.rename f).binary t op (r.rename f) = (l.binary s op r).map (rename f) := by
  cases l <;> cases r <;> cases op <;> first
    | rfl
    | exact congrArg Except.ok (by simp [h])
    | simp only [rename, binary, float?, map_rename_arithmetic, map_rename_floatArithmetic,
        map_rename_repeated]

end Value

end Stencil
