import Stencil.Value.Basic

/-!
# Contexts

The names that an expression can see, in layers. An inner layer hides the outer ones.
-/

namespace Stencil

/-- Layers of bindings, the innermost first, above an empty root. -/
structure Context where
  layers : List (Bindings Value)

namespace Context

/-- No name is bound. -/
def empty : Context := ⟨[]⟩

/-- The context with one more layer. No layer is made of no bindings. -/
def extend (ctx : Context) (bindings : Bindings Value) : Context :=
  if bindings.isEmpty then ctx else ⟨bindings :: ctx.layers⟩

/-- The context of one layer. -/
def ofBindings (bindings : Bindings Value) : Context := empty.extend bindings

/-- The innermost value of a name. -/
def get? (ctx : Context) (name : String) : Option Value :=
  ctx.layers.findSome? (Bindings.get? name)

/-- The number of layers, with the root. -/
def depth (ctx : Context) : Nat := ctx.layers.length + 1

@[simp] theorem get?_empty (name : String) : empty.get? name = none := rfl

/-- A new layer hides the old ones, name by name. -/
@[simp] theorem get?_extend (ctx : Context) (bindings : Bindings Value) (name : String) :
    (ctx.extend bindings).get? name = (Bindings.get? name bindings).or (ctx.get? name) := by
  unfold extend
  cases bindings with
  | nil => simp [Bindings.get?]
  | cons b bs =>
    simp only [List.isEmpty_cons, Bool.false_eq_true, if_false, get?, List.findSome?_cons]
    cases Bindings.get? name (b :: bs) <;> rfl

end Context

end Stencil
