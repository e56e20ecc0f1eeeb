import Stencil.Decimal.Layout
import Stencil.Text.Quoted

/-!
# Tokens

The words of the expression language.
-/

namespace Stencil.Expr

/-- Words with a meaning of their own. -/
inductive Keyword where
  | and
  | or
  | not
  /-- The word `in`. -/
  | within
  /-- The word `is`. -/
  | same
  /-- The word `if`. -/
  | when
  /-- The word `else`. -/
  | otherwise
  | true
  | false
  | none
deriving DecidableEq, Repr

/-- Brackets, separators and operators. -/
inductive Mark where
  | leftParen
  | rightParen
  | leftBracket
  | rightBracket
  | comma
  | dot
  | assign
  | eq
  | ne
  | lt
  | le
  | gt
  | ge
  | plus
  | minus
  | star
  | slash
  | doubleSlash
  | percent
deriving DecidableEq, Repr

/-- What a token says. -/
inductive Token.Kind where
  | int (n : Int64)
  | float (x : Float)
  | str (s : String)
  | name (n : String)
  | keyword (k : Keyword)
  | mark (m : Mark)
deriving Repr

/-- A token and the byte offset at which it starts. -/
structure Token where
  kind : Token.Kind
  position : Nat
deriving Repr

/-- The keyword that a word spells, if any. -/
def Keyword.ofWord? (word : String) : Option Keyword :=
  match word with
  | "and" => some .and
  | "or" => some .or
  | "not" => some .not
  | "in" => some .within
  | "is" => some .same
  | "if" => some .when
  | "else" => some .otherwise
  | "True" => some .true
  | "true" => some .true
  | "False" => some .false
  | "false" => some .false
  | "None" => some .none
  | "null" => some .none
  | _ => Option.none

/-- The name of a keyword in messages. -/
def Keyword.label : Keyword → String
  | and => "And"
  | or => "Or"
  | not => "Not"
  | within => "In"
  | same => "Is"
  | when => "If"
  | otherwise => "Else"
  | true => "True"
  | false => "False"
  | none => "None"

/-- The name of a mark in messages. -/
def Mark.label : Mark → String
  | leftParen => "LParen"
  | rightParen => "RParen"
  | leftBracket => "LBracket"
  | rightBracket => "RBracket"
  | comma => "Comma"
  | dot => "Dot"
  | assign => "Assign"
  | eq => "Eq"
  | ne => "Ne"
  | lt => "Lt"
  | le => "Le"
  | gt => "Gt"
  | ge => "Ge"
  | plus => "Plus"
  | minus => "Minus"
  | star => "Star"
  | slash => "Slash"
  | doubleSlash => "SlashSlash"
  | percent => "Percent"

/-- The name of a token in messages. -/
def Token.Kind.label : Kind → String
  | int n => "Int(" ++ Decimal.integer n.toInt ++ ")"
  | float x => "Float(" ++ Decimal.message x ++ ")"
  | str s => "Str(" ++ Text.Quoted.encode s ++ ")"
  | name n => "Ident(" ++ Text.Quoted.encode n ++ ")"
  | keyword k => k.label
  | mark m => m.label

/-- Where the next token starts; `stop` is where the text ends. -/
def here (stop : Nat) : List Token → Nat
  | [] => stop
  | t :: _ => t.position

end Stencil.Expr
