import Stencil.Context
import Stencil.Proofs.Value.Equality
import Stencil.Value.Operation

/-!
# Values without functions

A value in which no function stands is data. Data cannot be called, and operations on data yield
nothing but data, whatever the operation is (`Yields`).
-/

namespace Stencil

/-- A binding that counts is one of the bindings. -/
theorem Bindings.mem_of_get?_eq_some {α : Type} {bs : Bindings α} {name : String} {a : α}
    (h : get? name bs = some a) : (name, a) ∈ bs := by
  induction bs with
  | nil => simp at h
  | cons b bs ih =>
    obtain ⟨n, x⟩ := b
    rw [get?_cons, Option.or_eq_some_iff] at h
    rcases h with h | ⟨-, h⟩
    · exact List.mem_cons_of_mem _ (ih h)
    · obtain ⟨rfl, rfl⟩ : n = name ∧ x = a := by simpa using h
      exact List.mem_cons_self

namespace Value

variable {v w : Value} {items : List Value}

/-- A value is data if it is no function and everything that it is made of is data. -/
inductive IsData : Value → Prop
  | intro {v : Value} (hkind : v.kind ≠ .callable) (hparts : ∀ w ∈ v.parts, IsData w) : IsData v

/-- Data cannot be called. -/
theorem not_isData_callable {id : Identity} {g : Function} : ¬ IsData (callable id g) :=
  fun ⟨hkind, _⟩ => hkind rfl

/-- What data is made of is data. -/
theorem IsData.of_mem_parts (h : IsData v) (hw : w ∈ v.parts) : IsData w := by
  obtain ⟨-, hparts⟩ := h
  exact hparts w hw

/-- What has no parts and is no function is data. -/
theorem isData_of_parts_eq_nil (hkind : v.kind ≠ .callable) (h : v.parts = []) : IsData v :=
  .intro hkind (by simp [h])

theorem isData_null : IsData null := isData_of_parts_eq_nil nofun rfl

theorem isData_bool (b : Bool) : IsData (bool b) := isData_of_parts_eq_nil nofun rfl

theorem isData_int (n : Int64) : IsData (int n) := isData_of_parts_eq_nil nofun rfl

theorem isData_float (x : Float) : IsData (float x) := isData_of_parts_eq_nil nofun rfl

theorem isData_str (s : String) : IsData (str s) := isData_of_parts_eq_nil nofun rfl

/-- A list of data is data. -/
theorem isData_list {id : Identity} (h : ∀ w ∈ items, IsData w) : IsData (list id items) :=
  .intro nofun h

/-- What is written out in an expression is data. -/
theorem isData_literal (literal : Literal) : IsData literal.value :=
  match literal with
  | .null => isData_null
  | .bool b => isData_bool b
  | .int n => isData_int n
  | .float x => isData_float x
  | .str s => isData_str s

end Value

/-! ## Computations that yield data -/

/-- Whatever a computation yields has a property. -/
def Yields {ε α : Type} (P : α → Prop) : Except ε α → Prop
  | .ok a => P a
  | .error _ => True

namespace Value

variable {v l r : Value} {items : List Value}

/-- A field of data holds data. -/
theorem yields_access (h : IsData v) (field : String) : Yields IsData (v.access field) := by
  rw [access, field?]
  cases hfield : Bindings.get? field v.fields with
  | none => trivial
  | some w =>
    have hmem := Bindings.mem_of_get?_eq_some hfield
    cases v with
    | record id fields => exact h.of_mem_parts (mem_parts_record hmem)
    | _ => simp [Value.fields] at hmem

/-- An element of a list of data is data, also where the index counts from the end. -/
theorem yields_element (h : ∀ w ∈ items, IsData w) (index : Int64) :
    Yields IsData (element items index) := by
  simp only [element]
  generalize (if index.toInt < 0 then index.toInt + (items.length : Int) else index.toInt) = i
  split
  · split
    · next w hw => exact h w (List.mem_of_getElem? hw)
    · trivial
  · trivial

/-- What stands under an index of data is data, whatever the index is. -/
theorem yields_subscript (h : IsData v) (index : Value) : Yields IsData (v.subscript index) := by
  cases v with
  | list id items =>
    rw [subscript]
    split
    · exact yields_element (fun w hw => h.of_mem_parts hw) _
    · trivial
  | str s =>
    rw [subscript]
    split
    · refine yields_element (fun w hw => ?_) _
      obtain ⟨c, -, rfl⟩ := List.mem_map.1 hw
      exact isData_str _
    · trivial
  | record id fields =>
    cases index with
    | str name => exact yields_access h name
    | _ => trivial
  | _ => trivial

/-- Numbers are data. -/
theorem yields_map_int (x : Except EvalError Int64) : Yields IsData (x.map int) := by
  cases x with
  | error e => trivial
  | ok n => exact isData_int n

/-- Arithmetic on integers yields numbers. -/
theorem yields_arithmetic (op : BinaryOp) (m n : Int64) : Yields IsData (arithmetic op m n) := by
  cases op with
  | div =>
    rw [arithmetic]
    split
    · trivial
    · exact isData_float _
  | _ => exact yields_map_int _

/-- Arithmetic on floats yields numbers. -/
theorem yields_floatArithmetic (op : BinaryOp) (x y : Float) :
    Yields IsData (floatArithmetic op x y) := by
  cases op with
  | add | sub | mul => exact isData_float _
  | _ =>
    rw [floatArithmetic]
    split
    · trivial
    · exact isData_float _

theorem yields_repeated (s : String) (n : Int64) : Yields IsData (repeated s n) := by
  rw [repeated]
  split
  · exact isData_str _
  · trivial

/-- A sign or a negation yields data, even before a function. -/
theorem yields_unary (op : UnaryOp) (v : Value) : Yields IsData (v.unary op) := by
  cases op with
  | not => exact isData_bool _
  | neg =>
    cases v with
    | int n => exact yields_map_int _
    | float x => exact isData_float _
    | _ => trivial
  | pos =>
    cases v with
    | int n => exact isData_int n
    | float x => exact isData_float x
    | _ => trivial

/-- An operation on data yields data. Only a list that is made of two lists depends on what they
hold. -/
theorem yields_binary (hl : IsData l) (hr : IsData r) (site : Site) (op : BinaryOp) :
    Yields IsData (l.binary site op r) := by
  rw [binary.eq_def]
  split
  · exact yields_arithmetic _ _ _
  · exact isData_str _
  · refine isData_list fun w hw => ?_
    rcases List.mem_append.1 hw with hw | hw
    · exact hl.of_mem_parts hw
    · exact hr.of_mem_parts hw
  · exact yields_repeated _ _
  · exact yields_repeated _ _
  · split
    · exact yields_floatArithmetic _ _ _
    · trivial

end Value

/-- Every name that is bound is bound to data. -/
def Context.IsData (ctx : Context) : Prop := ∀ name v, ctx.get? name = some v → v.IsData

/-- A context that binds data to every name binds nothing else. -/
theorem Context.isData_ofBindings {bindings : Bindings Value}
    (h : ∀ b ∈ bindings, b.2.IsData) : (ofBindings bindings).IsData := by
  intro name v hv
  rw [ofBindings, get?_extend, get?_empty, Option.or_none] at hv
  exact h _ (Bindings.mem_of_get?_eq_some hv)

end Stencil
