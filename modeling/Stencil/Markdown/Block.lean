import Stencil.Markdown.Margin
import Stencil.Markdown.Piece

/-!
# Blocks

The structure of a text above its lines. What a paragraph holds stays in pieces, since the links in
it may be defined further down.
-/

namespace Stencil.Markdown

/-- What stands in front of the items of a list. -/
inductive ListMark where
  | bullet (mark : Char)
  | number (start : Nat) (delimiter : Char)

/-- Whether two marks belong to the items of one list. -/
def ListMark.sameList : ListMark → ListMark → Bool
  | bullet a, bullet b => a == b
  | number _ a, number _ b => a == b
  | _, _ => false

/-- The side on which the cells of a column line up. -/
inductive Alignment where
  | unset
  | left
  | center
  | right

/-- The pieces of a paragraph, a heading or a cell of a table, in order, with the position behind
its text and the containers that its lines belong to. -/
structure Passage where
  pieces : List Piece
  stop : Nat
  within : List Container
  cell : Bool

/-- A block of a text. -/
inductive Block where
  | paragraph (content : Passage)
  | heading (level : Nat) (content : Passage)
  | rule
  | code (info text : List Char)
  | html (markup : List Char)
  | quote (content : List Block)
  | list (mark : ListMark) (tight : Bool) (items : List (List Block))
  | table (columns : List Alignment) (head : List Passage) (rows : List (List Passage))

end Stencil.Markdown
