import Stencil.Value.Basic

/-!
# Expressions

What an expression is, apart from how it is written.
-/

namespace Stencil

/-- A value that is written out. -/
inductive Literal where
  | null
  | bool (b : Bool)
  | int (n : Int64)
  | float (x : Float)
  | str (s : String)
deriving Repr

/-- The value of a literal. -/
def Literal.value : Literal → Value
  | null => .null
  | bool b => .bool b
  | int n => .int n
  | float x => .float x
  | str s => .str s

/-- Operators in front of one operand. -/
inductive UnaryOp where
  | not
  | neg
  | pos
deriving DecidableEq, Repr

/-- Operators of arithmetic. -/
inductive BinaryOp where
  | add
  | sub
  | mul
  | div
  | floorDiv
  | mod
deriving DecidableEq, Repr

/-- Operators of a comparison. -/
inductive CompareOp where
  | eq
  | ne
  | lt
  | le
  | gt
  | ge
  | within
  | notWithin
  | same
  | notSame
deriving DecidableEq, Repr

/-- Expressions. -/
inductive Expr where
  | literal (l : Literal)
  | name (n : String)
  | access (target : Expr) (field : String)
  | index (target index : Expr)
  | call (callee : Expr) (positional : List Expr) (keywords : List (String × Expr))
  | list (items : List Expr)
  | unary (op : UnaryOp) (operand : Expr)
  | binary (op : BinaryOp) (left right : Expr)
  /-- A chain such as `a < b <= c`, in which every operand stands once. -/
  | compare (first : Expr) (rest : List (CompareOp × Expr))
  | and (left right : Expr)
  | or (left right : Expr)
  | conditional (condition consequent alternative : Expr)
deriving Inhabited, Repr

/-- How an operator of arithmetic is written. -/
def BinaryOp.symbol : BinaryOp → String
  | add => "+"
  | sub => "-"
  | mul => "*"
  | div => "/"
  | floorDiv => "//"
  | mod => "%"

end Stencil
