import Stencil.Markup.StartTag

/-!
# Markup events

A page as a sequence of texts, start tags and end tags. Comments, declarations and processing
instructions are dropped. A `<` that starts none of these is text, and so is everything from a tag
that does not end.
-/

namespace Stencil.Markup

/-- What is met in a page. -/
inductive Event where
  | text (content : String)
  | start (tag : StartTag)
  | finish (name : String)
deriving DecidableEq, Repr

/-- Elements whose inside is text up to their end tag. -/
def rawTags : List String := ["script", "style"]

/-- What follows the first `needle`; nothing if there is none. -/
def dropThrough (needle cs : List Char) : List Char :=
  match Text.splitAtFirst? needle cs with
  | some (_, rest) => rest
  | none => []

/-- The text before the first end tag that starts with the name, in any case, and the rest. -/
def takeRaw (name : List Char) : List Char → List Char × List Char
  | [] => ([], [])
  | c :: cs =>
    let needle := '<' :: '/' :: name
    if ((c :: cs).take needle.length).map Char.toLower = needle then ([], c :: cs)
    else
      let (body, rest) := takeRaw name cs
      (c :: body, rest)

/-- The name in an end tag. -/
def endTagName (inside : List Char) : String := lower (inside.takeWhile (!isBlank ·))

theorem length_dropThrough_le (needle cs : List Char) :
    (dropThrough needle cs).length ≤ cs.length := by
  unfold dropThrough
  split
  · rename_i h
    have := congrArg List.length (Text.eq_of_splitAtFirst? h)
    simp only [List.length_append] at this
    omega
  · simp

theorem takeRaw_append (name cs : List Char) :
    (takeRaw name cs).1 ++ (takeRaw name cs).2 = cs := by
  induction cs with
  | nil => rfl
  | cons c cs ih =>
    simp only [takeRaw]
    split <;> simp_all

theorem length_takeAttributes? {attributes : Attributes} {selfClosing : Bool}
    {cs rest : List Char} {found : Attributes × Bool}
    (h : takeAttributes? attributes selfClosing cs = .ok (some (found, rest))) :
    rest.length < cs.length := by
  fun_induction takeAttributes? attributes selfClosing cs with
  | case1 => simp at h
  | case2 attributes selfClosing cs r hs =>
    have hskip := length_skip_le cs
    rw [hs, List.length_cons] at hskip
    simp only [Except.ok.injEq, Option.some.injEq, Prod.mk.injEq] at h
    obtain ⟨-, rfl⟩ := h
    omega
  | case3 attributes selfClosing cs r hs _ ih =>
    have hskip := length_skip_le cs
    rw [hs, List.length_cons] at hskip
    have := ih h
    omega
  | case4 => simp at h
  | case5 => simp at h
  | case6 attributes selfClosing cs c r hs _ _ value _ x rest' hv _ _ ih =>
    have hskip := length_skip_le cs
    rw [hs, List.length_cons] at hskip
    have hd := length_dropWhile_le (!endsAttributeName ·) (c :: r)
    have hl := length_takeValue? hv
    simp only [List.length_cons] at hd hl
    have := ih h
    omega
  | case7 => simp at h
  | case8 attributes selfClosing cs c r hs _ _ value rest' hv hn name ih =>
    have hskip := length_skip_le cs
    rw [hs, List.length_cons] at hskip
    have hd := length_dropWhile_le (!endsAttributeName ·) (c :: r)
    have hl := length_takeValue? hv
    simp only [List.length_cons] at hd
    have := ih h
    omega

theorem length_takeStartTag? {cs rest : List Char} {tag : StartTag}
    (h : takeStartTag? cs = .ok (some (tag, rest))) : rest.length < cs.length := by
  unfold takeStartTag? at h
  match ht : takeAttributes? [] false (cs.dropWhile (!endsName ·)) with
  | .error _ => simp [ht, bind, Except.bind] at h
  | .ok none => simp [ht, bind, Except.bind, pure, Except.pure] at h
  | .ok (some ((attributes, selfClosing), r)) =>
    simp only [ht, bind, Except.bind, pure, Except.pure, Except.ok.injEq, Option.some.injEq,
      Prod.mk.injEq] at h
    obtain ⟨-, rfl⟩ := h
    have := length_takeAttributes? ht
    have := length_dropWhile_le (!endsName ·) cs
    omega

/-- The text of the characters before, the last first. -/
def Event.ofRun (run : List Char) : Event := .text (String.ofList run.reverse)

/-- The events of a page, where `run` holds the characters of the text before, the last first. -/
def eventsFrom (run : List Char) (cs : List Char) : Except Fault (List Event) :=
  match cs with
  | [] => .ok [.ofRun run]
  | c :: cs =>
    if c ≠ '<' then eventsFrom (c :: run) cs
    else
      match cs with
      | '!' :: '-' :: '-' :: r => do
        return .ofRun run :: (← eventsFrom [] (dropThrough ['-', '-', '>'] r))
      | '!' :: r => do return .ofRun run :: (← eventsFrom [] (dropThrough ['>'] r))
      | '?' :: r => do return .ofRun run :: (← eventsFrom [] (dropThrough ['>'] r))
      | '/' :: n :: r =>
        if n.isAlpha then
          match _hc : Text.splitAtFirst? ['>'] (n :: r) with
          | none => .ok [.text (String.ofList (run.reverse ++ c :: '/' :: n :: r))]
          | some (inside, rest) => do
            return .ofRun run :: .finish (endTagName inside) :: (← eventsFrom [] rest)
        else eventsFrom (c :: run) ('/' :: n :: r)
      | n :: r =>
        if n.isAlpha then
          match _ht : takeStartTag? (n :: r) with
          | .error fault => .error fault
          | .ok none => .ok [.text (String.ofList (run.reverse ++ c :: n :: r))]
          | .ok (some (tag, rest)) =>
            if !tag.selfClosing && rawTags.contains tag.name then do
              let raw := takeRaw tag.name.toList rest
              return .ofRun run :: .start tag :: .text (String.ofList raw.1)
                :: (← eventsFrom [] raw.2)
            else do return .ofRun run :: .start tag :: (← eventsFrom [] rest)
        else eventsFrom (c :: run) (n :: r)
      | [] => eventsFrom (c :: run) []
termination_by cs.length
decreasing_by
  · simp
  · have := length_dropThrough_le ['-', '-', '>'] r
    simp only [List.length_cons]
    omega
  · have := length_dropThrough_le ['>'] r
    simp only [List.length_cons]
    omega
  · have := length_dropThrough_le ['>'] r
    simp only [List.length_cons]
    omega
  · have := congrArg List.length (Text.eq_of_splitAtFirst? _hc)
    simp only [List.length_append, List.length_cons, List.length_nil] at this ⊢
    omega
  · simp
  · have := length_takeStartTag? _ht
    have := congrArg List.length (takeRaw_append tag.name.toList rest)
    simp only [List.length_append, List.length_cons] at *
    omega
  · have := length_takeStartTag? _ht
    simp only [List.length_cons] at *
    omega
  · simp
  · simp

/-- The events of a page. -/
def events (source : String) : Except Fault (List Event) := eventsFrom [] source.toList

end Stencil.Markup
