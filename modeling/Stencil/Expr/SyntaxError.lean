import Stencil.Expr.Token

/-!
# Syntax errors

Why a text is no expression, and where this shows.
-/

namespace Stencil.Expr

/-- What is wrong with the text of an expression. -/
inductive SyntaxError.Reason where
  | empty
  | unexpectedToken (kind : Token.Kind)
  | expectedToken (kind : Token.Kind)
  | endOfText
  | expectedAttribute
  | positionalAfterKeyword
  | tooDeep
  | badNumber (text : String)
  | badInteger (text : String)
  | unclosedText
  | unexpectedCharacter (c : Char)
deriving Repr

/-- A reason and the byte offset that it is about. -/
structure SyntaxError where
  position : Nat
  reason : SyntaxError.Reason
deriving Repr

/-- The reason in words. -/
def SyntaxError.Reason.message : Reason → String
  | empty => "empty expression"
  | unexpectedToken kind => "unexpected token " ++ kind.label
  | expectedToken kind => "expected " ++ kind.label
  | endOfText => "unexpected end of expression"
  | expectedAttribute => "expected attribute name"
  | positionalAfterKeyword => "positional argument follows keyword argument"
  | tooDeep => "expression nested too deeply"
  | badNumber text => "invalid number '" ++ text ++ "'"
  | badInteger text => "invalid integer '" ++ text ++ "'"
  | unclosedText => "unterminated string literal"
  | unexpectedCharacter c => "unexpected character '" ++ String.singleton c ++ "'"

/-- The error in words. -/
def SyntaxError.message (e : SyntaxError) : String :=
  "syntax error at " ++ Decimal.integer e.position ++ ": " ++ e.reason.message

end Stencil.Expr
