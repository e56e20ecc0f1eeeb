import Stencil.Expr.EvalError
import Stencil.Text.Occurrence
import Stencil.Value.Equality

/-!
# Operations on values

Arithmetic, order, containment, and access to parts.

Arithmetic on two integers stays with integers of 64 bits and is an error when it leaves their
range. Division gives a float. Quotients and remainders of the operators `//` and `%` go to the
floor, so a remainder has the sign of the divisor. If one operand is a float, or a truth value,
arithmetic is that of floats.
-/

namespace Stencil.Value

/-- An integer that was computed, unless the computation left the range. -/
def checked (overflow : Bool) (n : Int64) : Except EvalError Int64 :=
  if overflow then .error (.badType .overflow) else .ok n

/-- The quotient, down to the floor. Division itself goes towards zero, so a quotient that is
negative and leaves a remainder comes out one too large. -/
def floorDiv (a b : Int64) : Except EvalError Int64 :=
  if b = 0 then .error .divisionByZero
  else do
    let q ← checked (a.toBitVec.sdivOverflow b.toBitVec) (a / b)
    return if a % b ≠ 0 ∧ ¬(a < 0 ↔ b < 0) then q - 1 else q

/-- The remainder that belongs to the quotient down to the floor. It has the sign of the divisor,
where the remainder of the division itself has that of the dividend. -/
def floorMod (a b : Int64) : Except EvalError Int64 :=
  if b = 0 then .error .divisionByZero
  else do
    let r ← checked (a.toBitVec.sdivOverflow b.toBitVec) (a % b)
    return if r ≠ 0 ∧ ¬(r < 0 ↔ b < 0) then r + b else r

/-- Arithmetic of integers. -/
def arithmetic (op : BinaryOp) (a b : Int64) : Except EvalError Value :=
  match op with
  | .add => (checked (a.toBitVec.saddOverflow b.toBitVec) (a + b)).map int
  | .sub => (checked (a.toBitVec.ssubOverflow b.toBitVec) (a - b)).map int
  | .mul => (checked (a.toBitVec.smulOverflow b.toBitVec) (a * b)).map int
  | .div => if b = 0 then .error .divisionByZero else .ok (float (rounded a / rounded b))
  | .floorDiv => (floorDiv a b).map int
  | .mod => (floorMod a b).map int

/-- Arithmetic of floats. -/
def floatArithmetic (op : BinaryOp) (a b : Float) : Except EvalError Value :=
  match op with
  | .add => .ok (float (a + b))
  | .sub => .ok (float (a - b))
  | .mul => .ok (float (a * b))
  | .div => if b == 0.0 then .error .divisionByZero else .ok (float (a / b))
  | .floorDiv =>
    if b == 0.0 then .error .divisionByZero else .ok (float (a / b).floor)
  | .mod =>
    if b == 0.0 then .error .divisionByZero else .ok (float (a - b * (a / b).floor))

/-- How many bytes a repeated string may take. -/
def maxRepeated : Nat := 16 * 1024 * 1024

/-- The string written `count` times, not at all for a negative count. -/
def repeated (s : String) (count : Int64) : Except EvalError Value :=
  let times := count.toInt.toNat
  if s.utf8ByteSize * times ≤ maxRepeated then
    .ok (str (if s = "" then "" else Nat.repeat (· ++ s) times ""))
  else .error (.badType .tooLong)

/-- A value with an operator between it and another one; `site` names a list that this makes. -/
def binary (site : Site) (op : BinaryOp) (l r : Value) : Except EvalError Value :=
  match op, l, r with
  | op, int a, int b => arithmetic op a b
  | .add, str a, str b => .ok (str (a ++ b))
  | .add, list _ as, list _ bs => .ok (list (.made site) (as ++ bs))
  | .mul, str s, int n => repeated s n
  | .mul, int n, str s => repeated s n
  | op, l, r =>
    match l.float?, r.float? with
    | some a, some b => floatArithmetic op a b
    | _, _ => .error (.badType (.badOperands op l.kind r.kind))

/-- A value with an operator in front of it. -/
def unary (op : UnaryOp) (v : Value) : Except EvalError Value :=
  match op, v with
  | .not, v => .ok (bool (!v.truthy))
  | .neg, int n => (checked n.toBitVec.negOverflow (-n)).map int
  | .neg, float x => .ok (float (-x))
  | .pos, int n => .ok (int n)
  | .pos, float x => .ok (float x)
  | _, v => .error (.badType (.badOperand v.kind))

/-- The order of floats. -/
def orderFloats (a b : Float) : Except EvalError Ordering :=
  if a < b then .ok .lt
  else if a == b then .ok .eq
  else if b < a then .ok .gt
  else .error (.badType .unordered)

mutual

/-- The order of two values: strings by their characters, lists by their items, numbers and truth
values as floats. -/
def order : Value → Value → Except EvalError Ordering
  | str a, str b => .ok (compare a b)
  | list _ as, list _ bs => orderItems as bs
  | l, r =>
    match l.float?, r.float? with
    | some a, some b => orderFloats a b
    | _, _ => .error (.badType (.notOrdered l.kind r.kind))

/-- The order of two lists, by the first items that differ, or by length. -/
def orderItems : List Value → List Value → Except EvalError Ordering
  | [], [] => .ok .eq
  | [], _ :: _ => .ok .lt
  | _ :: _, [] => .ok .gt
  | a :: as, b :: bs =>
    match order a b with
    | .ok .eq => orderItems as bs
    | other => other

end

/-- Whether the container holds the item. -/
def contains (container item : Value) : Except EvalError Bool :=
  match container with
  | list _ items => .ok (item.within items)
  | set _ items => .ok (item.within items)
  | str s =>
    match item with
    | str needle => .ok (Text.occursIn needle.toList s.toList)
    | other => .error (.badType (.needsString other.kind))
  | record _ fields =>
    match item with
    | str name => .ok (Bindings.get? name fields).isSome
    | _ => .ok false
  | other => .error (.badType (.notIterable other.kind))

/-- Whether a comparison holds. -/
def compares (op : CompareOp) (l r : Value) : Except EvalError Bool :=
  match op with
  | .eq => .ok (equal l r)
  | .ne => .ok (!equal l r)
  | .lt => (order l r).map (· == .lt)
  | .le => (order l r).map (· != .gt)
  | .gt => (order l r).map (· == .gt)
  | .ge => (order l r).map (· != .lt)
  | .within => contains r l
  | .notWithin => (contains r l).map (!·)
  | .same => .ok (identical l r)
  | .notSame => .ok (!identical l r)

/-- The field of a record. -/
def access (v : Value) (field : String) : Except EvalError Value :=
  match v.field? field with
  | some value => .ok value
  | none => .error (.unknownField v.kind field)

/-- The element at an index; negative indices count from the end. -/
def element (items : List Value) (index : Int64) : Except EvalError Value :=
  let i := if index.toInt < 0 then index.toInt + items.length else index.toInt
  if 0 ≤ i then
    match items[i.toNat]? with
    | some v => .ok v
    | none => .error (.indexOutOfRange index)
  else .error (.indexOutOfRange index)

/-- The part of a value that an index selects. -/
def subscript (v index : Value) : Except EvalError Value :=
  match v, index with
  | list _ items, _ =>
    match index.integer? with
    | some i => element items i
    | none => .error (.badType (.listIndex index.kind))
  | str s, _ =>
    match index.integer? with
    | some i => element (s.toList.map fun c => str (String.singleton c)) i
    | none => .error (.badType (.stringIndex index.kind))
  | record _ _, str name => v.access name
  | _, _ => .error (.badType (.notSubscriptable v.kind))

end Stencil.Value
