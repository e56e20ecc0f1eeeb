import Stencil.Markdown.Escape
import Stencil.Markdown.Opening
import Stencil.Text.Occurrence

/-!
# Verbatim blocks

Blocks of code and of markup, whose lines are kept as they are, the marks of containers apart.
-/

namespace Stencil.Markdown

namespace Source

/-- The text of a line of a verbatim block, with the columns that are left of a tab in front. A line
end of two characters is written as a line feed. -/
def verbatimLine (s : Source) (spare start stop : Nat) : List Char :=
  let text :=
    if 2 ≤ stop && s[stop - 2]? == some '\r' && s.testAt isAscii (stop - 1) then
      s.slice start (stop - 2) ++ s.slice (stop - 1) stop
    else s.slice start stop
  List.replicate spare ' ' ++ text

/-- What has been read of indented code: its lines up to the last that is not blank, and the blank
ones behind it; all with the latest first. -/
structure CodeLines where
  kept : List (List Char)
  blanks : List (List Char)

/-- The lines after one more. -/
def CodeLines.add (blank : Bool) (line : List Char) (lines : CodeLines) : CodeLines :=
  if blank then { lines with blanks := line :: lines.blanks }
  else ⟨line :: (lines.blanks ++ lines.kept), []⟩

/-- Reads indented code from `i` on, in a line that is blank or not: the code, the position behind
it, and whether the last line was blank. -/
def indentedCodeFrom (s : Source) (within : List Container) :
    (fuel : Nat) → CodeLines → (blank : Bool) → (spare : Nat) → Nat → List Char × Nat × Bool
  | 0, lines, blank, _, i => (lines.kept.reverse.flatten, i, blank)
  | fuel + 1, lines, blank, spare, i =>
    let next := s.afterLineFeed i
    let lines := lines.add blank (s.verbatimLine spare i next)
    let (depth, margin) := Container.enterAll s within (.ofLine next)
    let (passed, margin) := margin.pass s 4
    if depth = within.length && (passed == 4 || s.atLineEnd margin.pos) && margin.pos != s.size then
      indentedCodeFrom s within fuel lines (s.isBlankAt margin.pos) margin.spare margin.pos
    else (lines.kept.reverse.flatten, next, blank)

/-- The indented code at a margin, the position behind it, and whether its last line was blank. -/
def indentedCode (s : Source) (within : List Container) (margin : Margin) :
    List Char × Nat × Bool :=
  s.indentedCodeFrom within (s.size + 1) ⟨[], []⟩ false margin.spare margin.pos

/-- The position behind the fence at `i` that closes code. The end of the text closes it too. -/
def closingFence? (s : Source) (mark : Char) (count i : Nat) : Option Nat :=
  if i = s.size then some i
  else
    let stop := s.skipWhile (· == mark) i
    let behind := s.skipWhile (· == ' ') stop
    if count ≤ stop - i && s.atLineEnd behind then some ((s.blankEnd? behind).getD behind) else none

/-- Reads code from the line at `i` on up to its closing fence: the code, and the position behind
it. -/
def fencedCodeFrom (s : Source) (within : List Container) (mark : Char) (count indent : Nat) :
    (fuel : Nat) → (lines : List (List Char)) → Nat → List Char × Nat
  | 0, lines, i => (lines.reverse.flatten, i)
  | fuel + 1, lines, i =>
    let (depth, margin) := Container.enterAll s within (.ofLine i)
    if depth < within.length then (lines.reverse.flatten, i)
    else
      let margin := margin.skip s indent
      let (passed, closing) := margin.pass s (4 - indent)
      match if passed = 4 - indent then none else s.closingFence? mark count closing.pos with
      | some next => (lines.reverse.flatten, next)
      | none =>
        let next := s.afterLineFeed margin.pos
        fencedCodeFrom s within mark count indent fuel
          (s.verbatimLine margin.spare margin.pos next :: lines) next

/-- The code behind the fence at `i`, which is indented by some columns: what the fence says about
it, the code, and the position behind it. -/
def fencedCode (s : Source) (within : List Container) (mark : Char) (count indent i : Nat) :
    List Char × List Char × Nat :=
  let start := s.skipGaps (i + count)
  let next := s.afterLineFeed start
  let info := s.slice start (next - s.countBack isSpace start next)
  (unescape false info, s.fencedCodeFrom within mark count indent (s.size + 2) [] next)

/-- Reads markup from `i` on up to its end: the markup, and the position behind it. -/
def markupFrom (s : Source) (within : List Container) (finish : MarkupEnd) :
    (fuel : Nat) → (lines : List (List Char)) → (spare : Nat) → Nat → List Char × Nat
  | 0, lines, _, i => (lines.reverse.flatten, i)
  | fuel + 1, lines, spare, i =>
    let next := s.afterLineFeed i
    let lines := s.verbatimLine spare i next :: lines
    let (depth, margin) := Container.enterAll s within (.ofLine next)
    let ended :=
      match finish with
      | .mark text => Text.occursIn text (s.slice i next)
      | .blankLine => s.isBlankAt margin.pos
    if depth < within.length || ended || margin.pos = s.size then (lines.reverse.flatten, next)
    else markupFrom s within finish fuel lines margin.spare margin.pos

/-- The markup at `i`, which is indented by some columns, and the position behind it. -/
def markupBlock (s : Source) (within : List Container) (finish : MarkupEnd) (indent i : Nat) :
    List Char × Nat :=
  s.markupFrom within finish (s.size + 1) [] indent i

end Source

end Stencil.Markdown
