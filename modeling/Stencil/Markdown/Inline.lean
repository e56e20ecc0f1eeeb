/-!
# Inline content

What a paragraph, a heading or a cell of a table holds.
-/

namespace Stencil.Markdown

/-- Where a link leads, and its title, empty for none. -/
structure Target where
  destination : List Char
  title : List Char
  deriving DecidableEq

/-- A piece of inline content. -/
inductive Inline where
  | text (content : List Char)
  | code (content : List Char)
  | html (markup : List Char)
  | softBreak
  | hardBreak
  | emphasis (content : List Inline)
  | strong (content : List Inline)
  | deleted (content : List Inline)
  | link (target : Target) (content : List Inline)
  | image (target : Target) (content : List Inline)

end Stencil.Markdown
