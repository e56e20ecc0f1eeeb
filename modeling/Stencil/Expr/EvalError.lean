import Stencil.Expr.Basic
import Stencil.Expr.SyntaxError

/-!
# Evaluation errors

Why an expression has no value.
-/

namespace Stencil

open Value (Kind)

/-- Operands of a wrong kind, or a result out of range. -/
inductive TypeFault where
  | overflow
  | listIndex (kind : Kind)
  | stringIndex (kind : Kind)
  | notSubscriptable (kind : Kind)
  | badOperand (kind : Kind)
  | badOperands (op : BinaryOp) (left right : Kind)
  | tooLong
  | unordered
  | notOrdered (left right : Kind)
  | needsString (kind : Kind)
  | notIterable (kind : Kind)
deriving DecidableEq, Repr

/-- Why a function refuses a call. -/
inductive CallFault where
  | missing (argument : String)
  | notNumber (kind : Kind)
  | noLength (kind : Kind)
  | notString (kind : Kind)
  | routeNotString
  | notTimestamp (kind : Kind)
  | badZone (minutes : Int)
  | timeOutOfRange (seconds : Int)
  | badPattern (pattern : String)
  | emailNotString
  | sizeNotInteger
  | refused (message : String)
deriving DecidableEq, Repr

/-- Why an expression has no value. -/
inductive EvalError where
  | badSyntax (e : Expr.SyntaxError)
  | unknownName (name : String)
  | unknownField (kind : Kind) (field : String)
  | badType (fault : TypeFault)
  | divisionByZero
  | indexOutOfRange (index : Int64)
  | notCallable (kind : Kind)
  | call (callee : String) (fault : CallFault)
deriving Repr

/-- The fault in words. -/
def TypeFault.message : TypeFault → String
  | overflow => "integer overflow"
  | listIndex kind => "list indices must be int, not " ++ kind.name
  | stringIndex kind => "string indices must be int, not " ++ kind.name
  | notSubscriptable kind => "'" ++ kind.name ++ "' value is not subscriptable"
  | badOperand kind => "bad operand type for unary operator: '" ++ kind.name ++ "'"
  | badOperands op left right =>
    "unsupported operand types for " ++ op.symbol ++ ": '" ++ left.name ++ "' and '"
      ++ right.name ++ "'"
  | tooLong => "repeated string is too long"
  | unordered => "comparison with NaN"
  | notOrdered left right =>
    "ordering not supported between '" ++ left.name ++ "' and '" ++ right.name ++ "'"
  | needsString kind => "'in <str>' requires str as left operand, not " ++ kind.name
  | notIterable kind => "argument of type '" ++ kind.name ++ "' is not iterable"

/-- The fault in words. -/
def CallFault.message : CallFault → String
  | missing argument => "missing argument '" ++ argument ++ "'"
  | notNumber kind => "expected a number, got " ++ kind.name
  | noLength kind => "'" ++ kind.name ++ "' value has no length"
  | notString kind => "expected a string, got " ++ kind.name
  | routeNotString => "route name must be a string"
  | notTimestamp kind => "expected a timestamp, got " ++ kind.name
  | badZone minutes => "invalid timezone offset " ++ Decimal.integer minutes
  | timeOutOfRange seconds => "timestamp " ++ Decimal.integer seconds ++ " out of range"
  | badPattern pattern => "invalid format '" ++ pattern ++ "'"
  | emailNotString => "email must be a string"
  | sizeNotInteger => "size must be an integer"
  | refused message => message

/-- The error in words. -/
def EvalError.message : EvalError → String
  | badSyntax e => e.message
  | unknownName name => "name '" ++ name ++ "' is not defined"
  | unknownField kind field => "'" ++ kind.name ++ "' value has no field '" ++ field ++ "'"
  | badType fault => "type error: " ++ fault.message
  | divisionByZero => "division by zero"
  | indexOutOfRange index => "index " ++ Decimal.integer index.toInt ++ " out of range"
  | notCallable kind => "'" ++ kind.name ++ "' value is not callable"
  | call callee fault => callee ++ "(): " ++ fault.message

end Stencil
