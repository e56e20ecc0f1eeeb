import Stencil.Markdown.Block
import Stencil.Markdown.RawHtml

/-!
# Beginnings of blocks

How a block begins, behind the margin of its line.
-/

namespace Stencil.Markdown

/-- What ends a block of markup. -/
inductive MarkupEnd where
  | mark (text : List Char)
  | blankLine

/-- The elements that hold text of their own, up to their end tag. -/
def verbatimTags : List String := ["pre", "style", "script", "textarea"]

/-- The elements whose tags begin a block of markup wherever they stand in the line. -/
def blockTags : List String := [
  "address", "article", "aside", "base", "basefont", "blockquote", "body", "caption", "center",
  "col", "colgroup", "dd", "details", "dialog", "dir", "div", "dl", "dt", "fieldset",
  "figcaption", "figure", "footer", "form", "frame", "frameset", "h1", "h2", "h3", "h4", "h5",
  "h6", "head", "header", "hr", "html", "iframe", "legend", "li", "link", "main", "menu",
  "menuitem", "nav", "noframes", "ol", "optgroup", "option", "p", "param", "search", "section",
  "summary", "table", "tbody", "td", "tfoot", "th", "thead", "title", "tr", "track", "ul"]

namespace Source

/-- The position behind the rule at `i`: three or more equal marks, with spaces and tabs between
them. -/
def ruleEnd? (s : Source) (i : Nat) : Option Nat :=
  match s[i]? with
  | none => none
  | some c =>
    let stop := s.skipWhile (fun d => d == c || d == ' ' || d == '\t') i
    if (c == '*' || c == '-' || c == '_') && 3 ≤ (s.slice i stop).count c then s.lineEnd? stop
    else none

/-- The level of the heading whose marks start at `i`. -/
def headingLevel? (s : Source) (i : Nat) : Option Nat :=
  let stop := s.skipWhile (· == '#') i
  let level := stop - i
  if 1 ≤ level && level ≤ 6 && (stop == s.size || s.testAt isSpace stop) then some level else none

/-- The level of the heading that a line of marks at `i` makes of the text above it, and the
position behind the line. -/
def underline? (s : Source) (i : Nat) : Option (Nat × Nat) :=
  match s[i]? with
  | some '=' => (s.blankEnd? (s.skipWhile (· == '=') i)).map (1, ·)
  | some '-' => (s.blankEnd? (s.skipWhile (· == '-') i)).map (2, ·)
  | _ => none

/-- The mark of the fence at `i`, and how often it stands there. -/
def fence? (s : Source) (i : Nat) : Option (Char × Nat) :=
  match s[i]? with
  | none => none
  | some c =>
    let stop := s.skipWhile (· == c) i
    if (c == '~' || (c == '\x60' && !(s.slice stop (s.afterLineFeed stop)).contains '\x60'))
        && 3 ≤ stop - i then
      some (c, stop - i)
    else none

/-- Whether a blank or a line's end follows the mark of an item. -/
def isMarkEnd (s : Source) (i : Nat) : Bool :=
  s.atLineEnd i || s.testAt (fun c => c == ' ' || c == '\t') i

/-- The mark of an item at `i`, and the position behind it. -/
def listMark? (s : Source) (i : Nat) : Option (ListMark × Nat) :=
  match s[i]? with
  | none => none
  | some c =>
    if c.isDigit then
      let stop := s.skipWhile Char.isDigit i
      match s[stop]? with
      | some d =>
        if (d == '.' || d == ')') && stop - i ≤ 9 && s.isMarkEnd (stop + 1) then
          some (.number (ofDigits (s.slice i stop)) d, stop + 1)
        else none
      | none => none
    else if (c == '-' || c == '+' || c == '*') && s.isMarkEnd (i + 1) then
      some (.bullet c, i + 1)
    else none

/-- What ends the block of markup that may hold blank lines and starts at `i`. -/
def verbatimMarkup? (s : Source) (i : Nat) : Option (List Char) :=
  if s[i]? ≠ some '<' then none
  else
    let stop := s.skipWhile Char.isAlpha (i + 1)
    let name := String.ofList ((s.slice (i + 1) stop).map Char.toLower)
    if verbatimTags.contains name
        && (stop == s.size || s.testAt (fun c => isSpace c || c == '>') stop) then
      some ("</" ++ name ++ ">").toList
    else if s.hasAt "!--".toList (i + 1) then some "-->".toList
    else if s.hasAt ['?'] (i + 1) then some "?>".toList
    else if s.hasAt "![CDATA[".toList (i + 1) then some "]]>".toList
    else if s.hasAt ['!'] (i + 1) && s.testAt Char.isAlpha (i + 2) then some ['>']
    else none

/-- Whether a tag of an element that begins a block of markup stands at `i`. -/
def isBlockTagAt (s : Source) (i : Nat) : Bool :=
  let start := if s[i + 1]? = some '/' then i + 2 else i + 1
  let stop := s.skipWhile Char.isAlphanum start
  s[i]? == some '<' && blockTags.contains (String.ofList ((s.slice start stop).map Char.toLower))
    && (s.isMarkEnd stop || s.hasAt ['>'] stop || s.hasAt ['/', '>'] stop)

/-- Whether the line at `i` is one tag. -/
def isTagLineAt (s : Source) (i : Nat) : Bool :=
  s[i]? == some '<' && ((s.tag? (fun _ => none) i).map fun r => s.isBlankAt r.pos).getD false

/-- What ends the block of markup that starts at `i`. -/
def markupEnd? (s : Source) (i : Nat) : Option MarkupEnd :=
  match s.verbatimMarkup? i with
  | some text => some (.mark text)
  | none => if s.isBlockTagAt i || s.isTagLineAt i then some .blankLine else none

/-- Whether an empty item, and an empty line behind it, stand at `i`, behind an item's mark. -/
def isEmptyItemAt (s : Source) (i : Nat) : Bool :=
  ((s.blankEnd? i).map s.isBlankAt).getD false

/-- Whether what stands at `i`, in the line behind a paragraph, begins a block other than a table.
An item of the containers that the paragraph is in (`inside`) does so only if it is not empty and
not numbered from elsewhere than one. -/
def beginsBlock (s : Source) (inside : Bool) (i : Nat) : Bool :=
  s.atLineEnd i || (s.ruleEnd? i).isSome || (s.headingLevel? i).isSome || (s.fence? i).isSome
    || s[i]? == some '>'
    || (match s.listMark? i with
      | some (.bullet _, stop) => !inside || !s.isEmptyItemAt stop
      | some (.number start _, stop) => !inside || (start == 1 && !s.isEmptyItemAt stop)
      | none => false)
    || (s.verbatimMarkup? i).isSome || s.isBlockTagAt i

end Source

end Stencil.Markdown
