import Stencil.Text.Blank

/-!
# Segments

A text with holes is a list of segments. What stands between an outermost `{` and its matching
`}` is an expression; braces inside belong to it. The same rule cuts page text, attribute values
and route templates.

Scanning takes two steps: every kept character is marked with whether it stands inside an
expression, and neighbours with the same mark are joined.
-/

namespace Stencil

/-- A run of plain text, or the text of an expression without its outermost braces. -/
inductive Segment where
  | literal (text : String)
  | expression (text : String)
deriving DecidableEq, Repr

namespace Segment

/-- The characters of a segment. -/
def text : Segment → String
  | literal t => t
  | expression t => t

/-- Whether the segment is to be evaluated. -/
def isExpression : Segment → Bool
  | literal _ => false
  | expression _ => true

/-- The segment of the given kind. -/
def ofRun : Bool × List Char → Segment
  | (true, cs) => expression (String.ofList cs)
  | (false, cs) => literal (String.ofList cs)

/-- The kept characters of a text that starts at the given brace depth, each with whether it
stands inside an expression. A `}` that closes nothing is kept as plain text. -/
def marks : (depth : Nat) → List Char → List (Bool × Char)
  | _, [] => []
  | depth, c :: cs =>
    if c = '{' then
      if depth = 0 then marks 1 cs else (true, c) :: marks (depth + 1) cs
    else if c = '}' then
      match depth with
      | 0 => (false, c) :: marks 0 cs
      | 1 => marks 0 cs
      | depth + 2 => (true, c) :: marks (depth + 1) cs
    else (decide (0 < depth), c) :: marks depth cs

/-- Puts a marked character in front of the runs. -/
def consRun (mark : Bool × Char) : List (Bool × List Char) → List (Bool × List Char)
  | (inside, cs) :: runs =>
    if mark.1 = inside then (inside, mark.2 :: cs) :: runs
    else (mark.1, [mark.2]) :: (inside, cs) :: runs
  | [] => [(mark.1, [mark.2])]

/-- Joins neighbours with the same mark. -/
def runs (marked : List (Bool × Char)) : List (Bool × List Char) := marked.foldr consRun []

/-- The segments of a text. -/
def parse (s : String) : List Segment := (runs (marks 0 s.toList)).map ofRun

/-- The trimmed texts of the expressions, in order. -/
def names (segments : List Segment) : List String :=
  (segments.filter isExpression).map fun s => Text.trimmed s.text

/-- The text that a list of segments is cut from: expressions get their braces back. -/
def print (segments : List Segment) : String :=
  String.join (segments.map fun
    | literal t => t
    | expression t => "\x7b" ++ t ++ "\x7d")

end Segment

end Stencil
