import Stencil.Markup.Builder
import Stencil.Proofs.Markup.StartTag

/-!
# Reading a page into a builder

A page is read from left to right, and what a builder becomes on the way depends on the rest of the
page and the text that is pending (`Builder.read`). Each piece of a written page, a text, a start
tag or an end tag, is one step of the builder. Raw elements need no case of their own where their
body does not hold a `<` (`Builder.read_startTag`).
-/

namespace Stencil.Markup

variable {attributes : Attributes} {name : String} {place : Tree.Place}
  {run cs r rest body : List Char} {c n : Char}

/-! ## The next event -/

/-- At the end of the page, the text that is pending is the last event. -/
theorem eventsFrom_nil : eventsFrom run [] = .ok [.ofRun run] := by
  rw [eventsFrom]

/-- A character that opens nothing is text. -/
theorem eventsFrom_of_ne (hc : c ≠ '<') : eventsFrom run (c :: cs) = eventsFrom (c :: run) cs := by
  rw [eventsFrom.eq_def]
  simp only [hc, ne_eq, not_false_eq_true, if_true]

/-- A letter behind a `<` starts a tag. The tag of a raw element brings its body along, and where no
tag ends the rest of the page is text. -/
theorem eventsFrom_of_isAlpha (hn : n.isAlpha = true) :
    eventsFrom run ('<' :: n :: r) =
      match takeStartTag? (n :: r) with
      | .error fault => .error fault
      | .ok none => .ok [.text (String.ofList (run.reverse ++ '<' :: n :: r))]
      | .ok (some (tag, rest)) =>
        if !tag.selfClosing && rawTags.contains tag.name then
          (eventsFrom [] (takeRaw tag.name.toList rest).2).map fun more =>
            .ofRun run :: .start tag ::
              .text (String.ofList (takeRaw tag.name.toList rest).1) :: more
        else (eventsFrom [] rest).map fun more => .ofRun run :: .start tag :: more := by
  rw [eventsFrom.eq_def]
  simp only [ne_eq, not_true_eq_false, if_false]
  -- a letter is none of the signs that start something else
  split
  · next h => cases h; simp at hn
  · next h => cases h; simp at hn
  · next h => cases h; simp at hn
  · next h => cases h; simp at hn
  · next h =>
    cases h
    rw [if_pos hn]
    split
    · next h => rw [h]
    · next h => rw [h]
    · next h =>
      simp only [h]
      split
      · rfl
      · rfl
  · next h => cases h

/-- An end tag goes up to the next `>`. -/
theorem eventsFrom_endTag (hn : n.isAlpha = true)
    (ht : Text.splitAtFirst? ['>'] (n :: r) = some (cs, rest)) :
    eventsFrom run ('<' :: '/' :: n :: r) =
      (eventsFrom [] rest).map fun more => .ofRun run :: .finish (endTagName cs) :: more := by
  rw [eventsFrom.eq_def]
  simp only [ne_eq, not_true_eq_false, if_false, hn, if_true]
  split
  · next h => simp [ht] at h
  · next h =>
    obtain ⟨rfl, rfl⟩ : _ ∧ _ := by simpa [ht] using h
    rfl

/-- An end tag that does not end is text. -/
theorem eventsFrom_openEndTag (hn : n.isAlpha = true)
    (ht : Text.splitAtFirst? ['>'] (n :: r) = none) :
    eventsFrom run ('<' :: '/' :: n :: r) =
      .ok [.text (String.ofList (run.reverse ++ '<' :: '/' :: n :: r))] := by
  rw [eventsFrom.eq_def]
  simp only [ne_eq, not_true_eq_false, if_false, hn, if_true]
  split
  · rfl
  · next h => simp [ht] at h

/-- A declaration goes up to the next `>` and is no event. -/
theorem eventsFrom_declaration (ht : Text.splitAtFirst? ['>'] r = some (cs, rest))
    (hr : r.head? ≠ some '-') :
    eventsFrom run ('<' :: '!' :: r) =
      (eventsFrom [] rest).map fun more => .ofRun run :: more := by
  rw [eventsFrom.eq_def]
  simp only [ne_eq, not_true_eq_false, if_false]
  split
  · next h => cases h; simp at hr
  · next h =>
    cases h
    simp only [dropThrough, ht]
    rfl
  · next h => cases h
  · next h => cases h
  · next hno _ _ h =>
    cases h
    exact (hno rfl).elim
  · next h => cases h

/-! ## The body of a raw element -/

/-- The first end tag behind a text without a `<` is the one that follows it. -/
theorem takeRaw_of_notMem {tag : List Char} (htag : tag.map Char.toLower = tag) (h : '<' ∉ body) :
    takeRaw tag (body ++ '<' :: '/' :: (tag ++ rest)) = (body, '<' :: '/' :: (tag ++ rest)) := by
  induction body with
  | nil => simp [takeRaw, htag]
  | cons c body ih =>
    rw [List.mem_cons, not_or] at h
    rw [List.cons_append, takeRaw, if_neg, ih h.2]
    intro he
    rw [List.length_cons, List.take_succ_cons, List.map_cons, List.cons.injEq] at he
    exact h.1 (Text.eq_of_toLower_eq (by decide) he.1).symm

/-! ## Pieces of a page as steps of a builder -/

namespace Builder

variable {b : Builder}

/-- What a builder becomes over the rest of a page, with the text before it pending. -/
def read (b : Builder) (run cs : List Char) : Except Fault Builder := (eventsFrom run cs).map b.run

/-- The builder with the pending text written. -/
def flush (b : Builder) (run : List Char) : Builder := b.step (.ofRun run)

@[simp] theorem flush_nil : b.flush [] = b := rfl

/-- To parse a page is to read it into a new builder. -/
theorem parse_eq (source : String) :
    parse source = (start.read [] source.toList).map document := by
  rw [parse, read, events]
  cases eventsFrom [] source.toList <;> rfl

/-- Events that are ready are taken in before the rest is read. -/
theorem read_map (more : List Event)
    (h : eventsFrom run cs = (eventsFrom [] rest).map (more ++ ·)) :
    b.read run cs = (b.run more).read [] rest := by
  rw [read, read, h]
  cases eventsFrom [] rest with
  | error _ => rfl
  | ok es => exact congrArg Except.ok List.foldl_append

/-- At the end of the page, the text that is pending is put in. -/
theorem read_nil : b.read run [] = .ok (b.flush run) := by
  rw [read, eventsFrom_nil]
  rfl

/-- Text without a `<` becomes pending. -/
theorem read_text (h : '<' ∉ body) :
    b.read run (body ++ rest) = b.read (body.reverse ++ run) rest := by
  induction body generalizing run with
  | nil => rfl
  | cons c body ih =>
    rw [List.mem_cons, not_or] at h
    rw [List.cons_append, read, eventsFrom_of_ne (Ne.symm h.1), ← read, ih h.2, List.reverse_cons,
      List.append_assoc, List.singleton_append]

/-- A written end tag closes its element, after the text that is pending was put in. -/
theorem read_endTag (hn : IsName name) :
    b.read run ('<' :: '/' :: (name.toList ++ '>' :: rest)) =
      ((b.flush run).step (.finish name)).read [] rest := by
  obtain ⟨n, r, hname, halpha, -⟩ := hn.exists_cons
  have hsplit : Text.splitAtFirst? ['>'] (name.toList ++ '>' :: rest) = some (name.toList, rest) :=
    Text.splitAtFirst?_eq_some_iff.2
      ⟨by simp, Text.firstBehind_singleton.2 (hn.notMem (by decide))⟩
  have hend : endTagName name.toList = name := by
    rw [endTagName, List.takeWhile_eq_self_iff.2, hn.lower_toList]
    intro c hc
    rw [isBlank_eq_false (hn.isNameChar c hc), Bool.not_false]
  refine read_map [.ofRun run, .finish name] ?_
  rw [hname, List.cons_append] at hsplit ⊢
  rw [eventsFrom_endTag halpha hsplit, ← hname, hend]
  rfl

/-- The doctype of a written page leaves no trace. -/
theorem read_doctype :
    b.read run ("<!DOCTYPE html>".toList ++ rest) = (b.flush run).read [] rest := by
  have hlist : "<!DOCTYPE html>".toList = '<' :: '!' :: ("DOCTYPE html".toList ++ ['>']) := rfl
  rw [hlist, List.cons_append, List.cons_append, List.append_assoc, List.singleton_append]
  have hsplit : Text.splitAtFirst? ['>'] ("DOCTYPE html".toList ++ '>' :: rest) =
      some ("DOCTYPE html".toList, rest) :=
    Text.splitAtFirst?_eq_some_iff.2 ⟨by simp, Text.firstBehind_singleton.2 (by decide)⟩
  exact read_map [.ofRun run] (eventsFrom_declaration hsplit (by simp))

/-- A written start tag opens its element, with the attributes that are written in it. For a raw
element, a body without a `<` and the end tag have to follow. -/
theorem read_open (hn : IsName name) (ha : AreAttributes attributes)
    (hraw : name ∈ rawTags →
      ∃ body more, rest = body ++ '<' :: '/' :: (name.toList ++ '>' :: more) ∧ '<' ∉ body) :
    b.read run ('<' :: (name.toList ++ (attributesText attributes ++ '>' :: rest))) =
      ((b.flush run).step (.start ⟨name, attributes, false⟩)).read [] rest := by
  obtain ⟨n, r, hname, halpha, -⟩ := hn.exists_cons
  have htake : takeStartTag? (name.toList ++ (attributesText attributes ++ '>' :: rest)) =
      .ok (some (⟨name, attributes, false⟩, rest)) := takeStartTag?_written hn ha
  rw [hname, List.cons_append] at htake
  rw [hname, List.cons_append]
  by_cases hm : name ∈ rawTags
  · obtain ⟨body, more, rfl, hbody⟩ := hraw hm
    have hevent : Event.text (String.ofList body) = .ofRun body.reverse := by
      rw [Event.ofRun, List.reverse_reverse]
    have hevents : eventsFrom run ('<' :: n :: (r ++ (attributesText attributes ++ '>' ::
        (body ++ '<' :: '/' :: (name.toList ++ '>' :: more))))) =
          (eventsFrom [] ('<' :: '/' :: (name.toList ++ '>' :: more))).map
            ([.ofRun run, .start ⟨name, attributes, false⟩, .ofRun body.reverse] ++ ·) := by
      rw [eventsFrom_of_isAlpha halpha, htake]
      simp only [Bool.not_false, Bool.true_and, List.contains_iff_mem, hm, if_true,
        takeRaw_of_notMem hn.map_toLower hbody, hevent]
      rfl
    rw [read_map _ hevents, read_text hbody, read_endTag hn, read_endTag hn, List.append_nil,
      flush_nil]
    rfl
  · refine read_map [.ofRun run, .start ⟨name, attributes, false⟩] ?_
    rw [eventsFrom_of_isAlpha halpha, htake]
    simp only [Bool.not_false, Bool.true_and, List.contains_iff_mem, hm, if_false]
    rfl

/-- A start tag is one step. If it makes what follows raw text, the next thing that would be read
in there anyway is its end tag. -/
theorem read_startTag (hn : IsName name) (ha : AreAttributes attributes)
    (hraw : name ∈ rawTags →
      ∃ body more, rest = body ++ '<' :: '/' :: (name.toList ++ '>' :: more) ∧ '<' ∉ body) :
    b.read run ((Tree.startTag place name attributes).toList ++ rest) =
      ((b.flush run).step (.start ⟨name, attributes, false⟩)).read [] rest := by
  have htag : (Tree.startTag place name attributes).toList ++ rest =
      (if name = "html" ∧ place.top then "<!DOCTYPE html>".toList else []) ++
        '<' :: (name.toList ++ (attributesText attributes ++ '>' :: rest)) := by
    rw [Tree.startTag]
    split <;> simp [attributesText, List.flatMap_map]
  rw [htag]
  split
  · rw [read_doctype, read_open hn ha hraw, flush_nil]
  · exact read_open hn ha hraw

end Builder

end Stencil.Markup
