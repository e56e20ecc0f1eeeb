import Stencil.Json.Reader
import Stencil.Yaml.Place

/-!
# YAML scalars

Texts without quotes, within quotes, and as blocks of lines. Where a text goes on in the next line,
the line's end counts as a space, and each empty line after it as a line's end.
-/

namespace Stencil.Yaml

/-- What is between two words: the gaps in the line, or the ends of lines. -/
structure Spacing where
  gaps : List Char
  breaks : List (List Char)

namespace Spacing

/-- Nothing between two words. -/
def empty : Spacing := ⟨[], []⟩

/-- The text that ends of lines fold to. -/
def foldBreaks : List (List Char) → List Char
  | [] => []
  | first :: more =>
    if first = ['\n'] then if more.isEmpty then [' '] else more.flatten else first ++ more.flatten

/-- The text that the spacing stands for. -/
def text (s : Spacing) : List Char := if s.breaks.isEmpty then s.gaps else foldBreaks s.breaks

/-- Reads gaps and ends of lines, at most `fuel` of them; `broken` tells whether the line has ended.
In the next lines no tab may stand before the column `least`. -/
def read? (least : Nat) : (fuel : Nat) → (broken : Bool) → Spacing → Place →
    Option (Spacing × Place)
  | 0, _, s, p => some (s, p)
  | fuel + 1, broken, s, p =>
    match p.rest with
    | [] => some (s, p)
    | c :: _ =>
      if isGap c then
        if broken && p.column < least && c == '\t' then none
        else
          let s := if broken then s else { s with gaps := s.gaps ++ [c] }
          read? least fuel broken s (p.skip 1)
      else if isBreak c then read? least fuel true ⟨[], s.breaks ++ [p.breakText]⟩ p.skipBreak
      else some (s, p)

end Spacing

/-- A scalar that has been read: its text, the place behind it, and whether that place is in a new
line. -/
structure ScalarReading where
  text : List Char
  next : Place
  fresh : Bool

/-! ## Scalars within quotes -/

/-- The number that hexadecimal digits stand for. -/
def hexNumber? (cs : List Char) : Option Nat :=
  cs.foldlM (fun n c => (Json.Reader.hexDigit? c).map fun d => 16 * n + d) 0

/-- The characters with an escape of one letter, and what they stand for. -/
def escapes : List (Char × Char) := [
  ('0', '\x00'), ('a', '\x07'), ('b', '\x08'), ('t', '\t'), ('\t', '\t'), ('n', '\n'),
  ('v', '\x0b'), ('f', '\x0c'), ('r', '\r'), ('e', '\x1b'), (' ', ' '), ('"', '"'), ('/', '/'),
  ('\\', '\\'), ('N', '\x85'), ('_', '\xa0'), ('L', '\u2028'), ('P', '\u2029')]

/-- The digits of an escape by number. -/
def escapeDigits? : Char → Option Nat
  | 'x' => some 2
  | 'u' => some 4
  | 'U' => some 8
  | _ => none

/-- The character that an escape stands for, from the letter behind the backslash on, and how many
characters the escape has. -/
def escape? : List Char → Option (Char × Nat)
  | [] => none
  | c :: cs =>
    match escapeDigits? c with
    | some digits =>
      if cs.length < digits then none
      else
        (hexNumber? (cs.take digits)).bind fun n =>
          if n.isValidChar then some (Char.ofNat n, digits + 1) else none
    | none => (escapes.lookup c).map (·, 1)

/-- Reads a text up to its closing quote. A single quote within single quotes is written twice. -/
def quotedFrom? (quote : Char) : (fuel : Nat) → (text : List Char) → Place →
    Option (List Char × Place)
  | 0, _, _ => none
  | fuel + 1, text, p =>
    if p.atAnyBound then none
    else
      match p.rest with
      | [] => none
      | c :: cs =>
        if isGap c || isBreak c then
          (Spacing.read? 0 cs.length.succ false .empty p).bind fun (spacing, p) =>
            quotedFrom? quote fuel (spacing.text.reverse ++ text) p
        else if c = quote then
          if quote = '\'' && cs.head? == some quote then
            quotedFrom? quote fuel (c :: text) (p.skip 2)
          else some (text.reverse, p.skip 1)
        else if quote = '"' && c == '\\' then
          if (p.skip 1).test isBreak then
            (Spacing.read? 0 cs.length true .empty (p.skip 1).skipBreak).bind fun (spacing, p) =>
              quotedFrom? quote fuel (spacing.breaks.flatten.reverse ++ text) p
          else
            (escape? cs).bind fun (d, length) =>
              quotedFrom? quote fuel (d :: text) (p.skip (length + 1))
        else quotedFrom? quote fuel (c :: text) (p.skip 1)

/-- Reads the text within quotes that comes first. -/
def quoted? (quote : Char) (p : Place) : Option ScalarReading :=
  (quotedFrom? quote p.rest.length [] (p.skip 1)).map fun (text, next) => ⟨text, next, false⟩

/-! ## Scalars without quotes -/

/-- A character with a meaning of its own in flow style. -/
def isFlowMark (c : Char) : Bool := ",[]\x7b\x7d".toList.contains c

/-- Whether a text without quotes can start here. -/
def startsPlain (flow : Bool) : List Char → Bool
  | [] => false
  | c :: cs =>
    if c == '-' then !(cs.head?.map isGap).getD false
    else if c == '?' || c == ':' then !flow && !atGap cs
    else !isGap c && !isBreak c && !isFlowMark c && !"#&*!|>'\"%@\x60".toList.contains c

/-- The word that comes first, and the rest. It ends at a gap, and before a colon with a gap behind
it; in flow style also before a mark of it, which may not stand behind a colon. -/
def plainWord? (flow : Bool) : List Char → Option (List Char × List Char)
  | [] => some ([], [])
  | c :: cs =>
    let marked := flow && c == ':' && (cs.head?.map fun d => d == '?' || isFlowMark d).getD false
    if isGap c || isBreak c then some ([], c :: cs)
    else if marked then none
    else if (c == ':' && atGap cs) || (flow && isFlowMark c) then some ([], c :: cs)
    else (plainWord? flow cs).map fun (word, rest) => (c :: word, rest)

/-- Reads a text without quotes, whose further lines start at the column `least` or later. `text`
has been read of it, `spacing` is behind that, and `fresh` tells whether the line has ended since.
-/
def plainFrom? (flow : Bool) (least : Nat) : (fuel : Nat) → (text spacing : List Char) →
    (fresh : Bool) → Place → Option ScalarReading
  | 0, text, _, fresh, p => some ⟨text, p, fresh⟩
  | fuel + 1, text, spacing, fresh, p =>
    if p.atAnyBound || p.has '#' then some ⟨text, p, fresh⟩
    else
      (plainWord? flow p.rest).bind fun (word, rest) =>
        let text := if word.isEmpty then text else text ++ spacing ++ word
        let fresh := fresh && word.isEmpty
        let p := p.skip word.length
        if rest.isEmpty || !atGap rest then some ⟨text, p, fresh⟩
        else
          (Spacing.read? least rest.length.succ false .empty p).bind fun (spacing, p) =>
            let fresh := !spacing.breaks.isEmpty
            if !flow && p.column < least then some ⟨text, p, fresh⟩
            else plainFrom? flow least fuel text spacing.text fresh p

/-- Reads the text without quotes that comes first. -/
def plain? (flow : Bool) (least : Nat) (p : Place) : Option ScalarReading :=
  plainFrom? flow least p.rest.length.succ [] [] false p

/-! ## Blocks of lines -/

/-- What becomes of the ends of lines at the end of a block: none is kept, one, or all. -/
inductive Chomping where
  | strip
  | clip
  | keep
deriving DecidableEq

/-- The first line of a block: what becomes of the ends of lines at its end, the indentation that it
asks for (zero for none), and the next line. -/
structure BlockHeader where
  chomping : Chomping
  indent : Nat
  next : Place

namespace BlockHeader

/-- Reads the sign for chomping, if it comes first. -/
def sign (p : Place) : Option Chomping × Place :=
  if p.has '+' then (some .keep, p.skip 1)
  else if p.has '-' then (some .strip, p.skip 1)
  else (none, p)

/-- Reads the digit for indentation, which is not zero, if it comes first. -/
def digit? (p : Place) : Option (Nat × Place) :=
  match p.rest with
  | c :: _ =>
    if c = '0' then none
    else if c.isDigit then some (c.toNat - '0'.toNat, p.skip 1)
    else some (0, p)
  | [] => some (0, p)

/-- Reads the first line of a block, behind its mark. -/
def read? (p : Place) : Option BlockHeader := do
  let (chomping, p) := sign p
  let (indent, p) ← digit? p
  let (chomping, p) := if chomping.isNone && indent != 0 then sign p else (chomping, p)
  return ⟨chomping.getD .clip, indent, ← p.endLine?⟩

end BlockHeader

/-- Passes the indentation of lines and the ends of empty ones: the ends, the greatest indentation,
and the place then. An `indent` of zero is not known yet. -/
def blockBreaks? (indent : Nat) : (fuel : Nat) → (breaks : List (List Char)) → (greatest : Nat) →
    Place → Option (List (List Char) × Nat × Place)
  | 0, breaks, greatest, p => some (breaks, greatest, p)
  | fuel + 1, breaks, greatest, p =>
    let spaces := (p.rest.takeWhile (· == ' ')).length
    let p := p.skip (if indent = 0 then spaces else min spaces (indent - p.column))
    let greatest := max greatest p.column
    if (indent == 0 || p.column < indent) && p.has '\t' then none
    else if p.test isBreak then
      blockBreaks? indent fuel (breaks ++ [p.breakText]) greatest p.skipBreak
    else some (breaks, greatest, p)

/-- The lines of a block that have been read: the text up to the last line's end, that end, the ends
of empty lines behind it, and whether the last line started with a gap. -/
structure BlockLines where
  text : List Char
  ending : List Char
  breaks : List (List Char)
  gapped : Bool

/-- The text with one more line behind it. Where a block is folded, a line's end between two lines
that start with no gap counts as a space, or as nothing where empty lines follow. -/
def BlockLines.add (folded : Bool) (line ending : List Char) (b : BlockLines) : BlockLines :=
  let gapped := (line.head?.map isGap).getD false
  let joint :=
    if folded && b.ending == ['\n'] && !b.gapped && !gapped then
      if b.breaks.isEmpty then [' '] else []
    else b.ending
  ⟨b.text ++ joint ++ b.breaks.flatten ++ line, ending, [], gapped⟩

/-- Reads the lines of a block that are indented by `indent` columns. -/
def blockLines? (folded : Bool) (indent : Nat) : (fuel : Nat) → BlockLines → Place →
    Option (BlockLines × Place)
  | 0, b, p => some (b, p)
  | fuel + 1, b, p =>
    if p.column ≠ indent || p.rest.isEmpty then some (b, p)
    else
      let line := p.rest.takeWhile (!isBreak ·)
      let p := p.skip line.length
      let b := b.add folded line p.breakText
      (blockBreaks? indent p.rest.length [] 0 p.skipBreak).bind fun (breaks, _, p) =>
        blockLines? folded indent fuel { b with breaks := breaks } p

/-- Reads the block of lines whose mark comes first. Its lines start at the column `least` or
later, unless its first line asks for less. -/
def block? (folded : Bool) (least : Nat) (p : Place) : Option ScalarReading := do
  let header ← BlockHeader.read? (p.skip 1)
  let asked := if header.indent = 0 then 0 else least - 1 + header.indent
  let (breaks, greatest, p) ← blockBreaks? asked p.rest.length [] 0 header.next
  let indent := if asked = 0 then max (max greatest least) 1 else asked
  let (b, p) ← blockLines? folded indent p.rest.length.succ ⟨[], [], breaks, false⟩ p
  let ending := if header.chomping = .strip then [] else b.ending
  let breaks := if header.chomping = .keep then b.breaks.flatten else []
  return ⟨b.text ++ ending ++ breaks, p, true⟩

end Stencil.Yaml
