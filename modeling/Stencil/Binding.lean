/-!
# Bindings

Names bound to things, in order. A name may be bound more than once; the last binding counts.
-/

namespace Stencil

/-- Names with what they are bound to. -/
abbrev Bindings (α : Type) := List (String × α)

namespace Bindings

variable {α : Type}

/-- What the last binding of a name holds. -/
def get? (name : String) : Bindings α → Option α
  | [] => none
  | (n, a) :: bs => (get? name bs).or (if n = name then some a else none)

@[simp] theorem get?_nil (name : String) : get? name ([] : Bindings α) = none := rfl

@[simp] theorem get?_cons (name n : String) (a : α) (bs : Bindings α) :
    get? name ((n, a) :: bs) = (get? name bs).or (if n = name then some a else none) := rfl

end Bindings

end Stencil
