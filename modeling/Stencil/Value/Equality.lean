import Stencil.Value.Basic

/-!
# Equality and identity of values

Equality compares what values hold. An integer equals a float if it does so after rounding to a
float; truth values are not numbers here. Two sets are equal if they have equally many items and
each item of the first equals one of the second. Callables are equal if they are the same object.

Identity compares objects by where they came from, and scalars other than floats by content.
-/

namespace Stencil.Value

/-- Integers and floats as floats. -/
def number? : Value → Option Float
  | int n => some (rounded n)
  | float x => some x
  | _ => none

mutual

/-- Whether two values hold the same. -/
def equal : Value → Value → Bool
  | null, null => true
  | bool a, bool b => a == b
  | str a, str b => a == b
  | list _ as, list _ bs => equalItems as bs
  | set _ as, set _ bs =>
    as.length == bs.length && coveredBy as bs
  | record _ as, record _ bs => equalFields as bs
  | callable a _, callable b _ => a == b
  | int a, int b => a == b
  | a, b =>
    match a.number?, b.number? with
    | some x, some y => x == y
    | _, _ => false
termination_by a b => sizeOf a + sizeOf b

/-- Whether two lists are equal item by item. -/
def equalItems : List Value → List Value → Bool
  | [], [] => true
  | a :: as, b :: bs => equal a b && equalItems as bs
  | _, _ => false
termination_by as bs => sizeOf as + sizeOf bs

/-- Whether two records have the same names and equal values, in the same order. -/
def equalFields : List (String × Value) → List (String × Value) → Bool
  | [], [] => true
  | (m, a) :: as, (n, b) :: bs => m == n && equal a b && equalFields as bs
  | _, _ => false
termination_by as bs => sizeOf as + sizeOf bs

/-- Whether an item equal to the value stands in the list. -/
def within (v : Value) : List Value → Bool
  | [] => false
  | item :: items => equal item v || within v items
termination_by items => sizeOf v + sizeOf items

/-- Whether each item of the first list stands in the second. -/
def coveredBy : List Value → List Value → Bool
  | [], _ => true
  | a :: as, bs => within a bs && coveredBy as bs
termination_by as bs => sizeOf as + sizeOf bs

end

theorem within_eq_any (v : Value) (items : List Value) :
    v.within items = items.any fun item => equal item v := by
  induction items with
  | nil => simp [within]
  | cons item items ih => simp [within, ih]

theorem coveredBy_eq_all (as bs : List Value) :
    coveredBy as bs = as.all fun a => a.within bs := by
  induction as with
  | nil => simp [coveredBy]
  | cons a as ih => simp [coveredBy, ih]

/-- The first item of each kind of equal ones, in order. -/
def distinct (items : List Value) : List Value :=
  items.foldl (fun kept item => if item.within kept then kept else kept ++ [item]) []

/-- The set of the given items; of equal ones the first is kept. -/
def ofDistinct (id : Identity) (items : List Value) : Value := set id (distinct items)

/-- Whether two values are one object, or the same scalar. No float is identical to another. -/
def identical : Value → Value → Bool
  | null, null => true
  | bool a, bool b => a == b
  | int a, int b => a == b
  | str a, str b => a == b
  | list a _, list b _ => a == b
  | set a _, set b _ => a == b
  | record a _, record b _ => a == b
  | callable a _, callable b _ => a == b
  | _, _ => false

end Stencil.Value
