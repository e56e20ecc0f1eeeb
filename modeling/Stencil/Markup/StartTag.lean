import Stencil.Document.Basic
import Stencil.Text.Occurrence

/-!
# Start tags

Reading a start tag. Names are taken as they stand, in small letters; attributes may be quoted,
unquoted or have no value. An unquoted value may hold an expression, inside whose braces blanks and
`>` do not count.
-/

namespace Stencil.Markup

/-- Blanks between the parts of a tag. -/
def isBlank (c : Char) : Bool :=
  c == ' ' || c == '\t' || c == '\n' || c == '\x0c' || c == '\r'

/-- Drops the blanks at the front. -/
def skip (cs : List Char) : List Char := cs.dropWhile isBlank

/-- Where the name of an element ends. -/
def endsName (c : Char) : Bool := isBlank c || c == '>' || c == '/'

/-- Where the name of an attribute ends. -/
def endsAttributeName (c : Char) : Bool := endsName c || c == '='

/-- Capitals of ASCII become small letters. -/
def lower (cs : List Char) : String := String.ofList (cs.map Char.toLower)

/-- The text cannot be read: after an `=` without a name one byte is passed over, and this is not a
character of its own. -/
structure Fault where
deriving DecidableEq, Repr

/-- A start tag. -/
structure StartTag where
  name : String
  attributes : Attributes
  selfClosing : Bool
deriving DecidableEq, Repr

/-- An unquoted value, which ends at a blank or a `>` outside of braces, and the rest. -/
def takeUnquoted (depth : Nat) : List Char → List Char × List Char
  | [] => ([], [])
  | c :: cs =>
    if c = '{' then
      let (value, rest) := takeUnquoted (depth + 1) cs
      (c :: value, rest)
    else if c = '}' then
      let (value, rest) := takeUnquoted (depth - 1) cs
      (c :: value, rest)
    else if depth = 0 ∧ (isBlank c ∨ c = '>') then ([], c :: cs)
    else
      let (value, rest) := takeUnquoted depth cs
      (c :: value, rest)

/-- What follows the name of an attribute: its value, if it has one, and the rest. There is
nothing to read if the text ends within. -/
def takeValue? (cs : List Char) : Option (Option (List Char) × List Char) :=
  match skip cs with
  | '=' :: cs =>
    match skip cs with
    | [] => none
    | q :: cs =>
      if q = '"' ∨ q = '\'' then
        (Text.splitAtFirst? [q] cs).map fun (value, rest) => (some value, rest)
      else
        let (value, rest) := takeUnquoted 0 (q :: cs)
        some (some value, rest)
  | cs => some (none, cs)

theorem length_dropWhile_le (p : Char → Bool) (cs : List Char) :
    (cs.dropWhile p).length ≤ cs.length :=
  (List.dropWhile_suffix p).length_le

theorem length_skip_le (cs : List Char) : (skip cs).length ≤ cs.length :=
  length_dropWhile_le _ _

theorem takeUnquoted_append (depth : Nat) (cs : List Char) :
    (takeUnquoted depth cs).1 ++ (takeUnquoted depth cs).2 = cs := by
  fun_induction takeUnquoted depth cs <;> simp_all

theorem length_takeValue? {cs rest : List Char} {value : Option (List Char)}
    (h : takeValue? cs = some (value, rest)) : rest.length ≤ cs.length := by
  have hs := length_skip_le cs
  unfold takeValue? at h
  split at h
  · rename_i r heq
    have hr := length_skip_le r
    rw [heq, List.length_cons] at hs
    split at h
    · simp at h
    · rename_i q r' heq'
      rw [heq', List.length_cons] at hr
      split at h
      · obtain ⟨⟨b, a⟩, hb, hab⟩ := Option.map_eq_some_iff.1 h
        simp only [Prod.mk.injEq] at hab
        obtain ⟨-, rfl⟩ := hab
        have := congrArg List.length (Text.eq_of_splitAtFirst? hb)
        simp only [List.length_append, List.length_cons, List.length_nil] at this
        omega
      · have := congrArg List.length (takeUnquoted_append 0 (q :: r'))
        simp only [Option.some.injEq, Prod.mk.injEq] at h
        obtain ⟨-, rfl⟩ := h
        simp only [List.length_append, List.length_cons] at this
        omega
  · simp only [Option.some.injEq, Prod.mk.injEq] at h
    obtain ⟨-, rfl⟩ := h
    exact hs

/-- The attributes and the end of a tag: what the tag says, and the rest. There is nothing to read
if the text ends within the tag. A slash counts if no attribute follows it. -/
def takeAttributes? (attributes : Attributes) (selfClosing : Bool) (cs : List Char) :
    Except Fault (Option ((Attributes × Bool) × List Char)) :=
  match _hs : skip cs with
  | [] => .ok none
  | c :: r =>
    if c = '>' then .ok (some ((attributes, selfClosing), r))
    else if c = '/' then takeAttributes? attributes true r
    else
      match _hv : takeValue? ((c :: r).dropWhile (!endsAttributeName ·)) with
      | none => .ok none
      | some (value, rest) =>
        if endsAttributeName c then
          match rest with
          | [] => .ok none
          | x :: rest =>
            if x.utf8Size = 1 then takeAttributes? attributes false rest else .error {}
        else
          let name := lower ((c :: r).takeWhile (!endsAttributeName ·))
          takeAttributes? (Document.put name (value.map String.ofList) attributes) false rest
termination_by cs.length
decreasing_by
  all_goals
    have hskip := length_skip_le cs
    rw [_hs, List.length_cons] at hskip
  · omega
  · have hd := length_dropWhile_le (!endsAttributeName ·) (c :: r)
    have hl := length_takeValue? _hv
    simp only [List.length_cons] at hd hl
    omega
  · rename_i hn
    have hd := length_dropWhile_le (!endsAttributeName ·) r
    have hl := length_takeValue? _hv
    rw [List.dropWhile_cons_of_pos (by simpa using hn)] at hl
    omega

/-- The start tag that follows a `<`, and the rest. There is nothing to read if the text ends
within the tag. -/
def takeStartTag? (cs : List Char) : Except Fault (Option (StartTag × List Char)) := do
  match ← takeAttributes? [] false (cs.dropWhile (!endsName ·)) with
  | none => return none
  | some ((attributes, selfClosing), rest) =>
    return some (⟨lower (cs.takeWhile (!endsName ·)), attributes, selfClosing⟩, rest)

end Stencil.Markup
