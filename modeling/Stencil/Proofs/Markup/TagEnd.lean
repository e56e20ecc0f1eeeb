import Stencil.Proofs.Markup.Fault

/-!
# Where a start tag ends

In a tag without quotes and braces every character is a part of the name, of an attribute or of a
value, as the characters before it tell (`Part.after`). Reading ends such a tag at its own `>`
exactly if this does not stand right behind a value that no name stands in front of
(`takeStartTag?_of_plain`). Behind such a value the `>` is passed over, and what follows the tag is
read as more attributes (`exists_takeAttributes?`).
-/

namespace Stencil.Markup

variable {inside t r rest : List Char} {b c n : Char} {p : Char → Bool} {tag : StartTag}
  {attributes : Attributes} {selfClosing : Bool}

/-- Characters that end nothing but names and unquoted values. -/
def Plain (cs : List Char) : Prop := ∀ c ∈ cs, c ∉ ['>', '"', '\'', '{', '}']

instance : DecidablePred Plain := fun cs => List.decidableBAll _ cs

/-- The end of a plain text is plain. -/
theorem Plain.of_suffix (h : Plain t) (hr : r <:+ t) : Plain r := fun c hc => h c (hr.subset hc)

theorem Plain.ne_close (h : Plain t) (hc : c ∈ t) : c ≠ '>' := by
  rintro rfl
  exact h _ hc List.mem_cons_self

theorem isBlank_of_dropWhile (h : t.dropWhile (!isBlank ·) = b :: r) : isBlank b = true := by
  simpa using eq_false_of_dropWhile h

/-! ## The parts of a tag -/

/-- What a character of a tag belongs to. -/
inductive Part where
  /-- The name of the element. -/
  | name
  /-- Blanks and slashes between attributes. -/
  | gap
  /-- The name of an attribute, or blanks behind it. -/
  | key
  /-- The `=` in front of a value, or blanks behind it. It is astray if it does not follow the name
  of an attribute. -/
  | equals (stray : Bool)
  /-- A value, with a stray `=` in front of it or not. -/
  | value (stray : Bool)
deriving DecidableEq, Repr

namespace Part

/-- What a character belongs to that follows another one. -/
def next : Part → Char → Part
  | name, c => if isBlank c ∨ c = '/' then gap else name
  | gap, c => if isBlank c ∨ c = '/' then gap else if c = '=' then equals true else key
  | key, c => if c = '/' then gap else if c = '=' then equals false else key
  | equals stray, c => if isBlank c then equals stray else value stray
  | value stray, c => if isBlank c then gap else value stray

/-- What the last of some characters belongs to. -/
def after (part : Part) (cs : List Char) : Part := cs.foldl next part

/-- Whether there is an `=` or a value without a name in front of it. -/
def isStray : Part → Bool
  | equals stray => stray
  | value stray => stray
  | _ => false

variable {part : Part} {stray : Bool}

theorem after_cons : part.after (c :: t) = (part.next c).after t := rfl

/-- Characters at the front that change nothing may be left out. -/
theorem after_dropWhile (h : ∀ c, p c = true → part.next c = part) :
    part.after (t.dropWhile p) = part.after t := by
  induction t with
  | nil => rfl
  | cons c t ih =>
    cases hc : p c with
    | false => rw [List.dropWhile_cons_of_neg (by simp [hc])]
    | true => rw [List.dropWhile_cons_of_pos hc, ih, after_cons, h c hc]

/-- Blanks in a gap leave one in the gap. -/
theorem after_skip_gap : gap.after (skip t) = gap.after t :=
  after_dropWhile fun c hc => by simp [next, hc]

/-- Blanks behind a name change nothing: a value may still follow. -/
theorem after_skip_key : key.after (skip t) = key.after t := by
  refine after_dropWhile fun b hb => ?_
  simp only [isBlank, Bool.or_eq_true, beq_iff_eq] at hb
  rcases hb with (((rfl | rfl) | rfl) | rfl) | rfl <;> rfl

/-- The name of an attribute changes nothing but that there is one. -/
theorem after_attributeName (hc : endsAttributeName c = false) :
    gap.after (c :: t) = key.after ((c :: t).dropWhile (!endsAttributeName ·)) := by
  have hkey : ∀ x, endsAttributeName x = false → key.next x = key := fun x hx => by
    simp_all [endsAttributeName, endsName, next]
  have hnext : gap.next c = key := by simp_all [endsAttributeName, endsName, next]
  rw [after_dropWhile fun x hx => hkey x (by simpa using hx), after_cons, after_cons, hnext,
    hkey c hc]

/-- A blank in a gap is passed over. -/
theorem after_blank_gap (h : isBlank b = true) : gap.after (b :: t) = gap.after t := by
  simp [after_cons, next, h]

/-- Where a value ends there is a gap. -/
theorem isStray_after_value :
    ((value stray).after t).isStray =
      if t.dropWhile (!isBlank ·) = [] then stray
      else (gap.after (t.dropWhile (!isBlank ·))).isStray := by
  rw [← after_dropWhile (p := (!isBlank ·)) fun c hc => by simp_all [next]]
  cases hd : t.dropWhile (!isBlank ·) with
  | nil => rfl
  | cons b more =>
    have hb : isBlank b = true := isBlank_of_dropWhile hd
    rw [if_neg (List.cons_ne_nil _ _), after_blank_gap hb, after_cons, next, if_pos hb]

/-- If the value behind an equality sign goes up to the end, it is stray there just if the sign was.
Otherwise the value is over, and what counts is behind it. -/
theorem isStray_after_equals :
    ((equals stray).after t).isStray =
      if (skip t).dropWhile (!isBlank ·) = [] then stray
      else (gap.after ((skip t).dropWhile (!isBlank ·))).isStray := by
  rw [← after_dropWhile (p := isBlank) fun c hc => by simp [next, hc]]
  change ((equals stray).after (skip t)).isStray = _
  cases hs : skip t with
  | nil => rfl
  | cons c r =>
    have hc : isBlank c = false := isBlank_of_skip hs
    rw [after_cons, next, hc, if_neg Bool.false_ne_true, isStray_after_value,
      List.dropWhile_cons_of_pos (by simp [hc])]

end Part

/-! ## Reading up to the end of a tag -/

theorem dropWhile_append_close (hp : p '>' = false) :
    (t ++ '>' :: rest).dropWhile p = t.dropWhile p ++ '>' :: rest := by
  rw [List.dropWhile_append, List.dropWhile_cons_of_neg (by simp [hp])]
  split
  · next hempty => rw [List.isEmpty_iff.1 hempty, List.nil_append]
  · rfl

theorem takeWhile_append_close (hp : p '>' = false) :
    (t ++ '>' :: rest).takeWhile p = t.takeWhile p := by
  induction t with
  | nil => simp [hp]
  | cons c t ih => rw [List.cons_append, List.takeWhile_cons, List.takeWhile_cons, ih]

theorem skip_append_close : skip (t ++ '>' :: rest) = skip t ++ '>' :: rest :=
  dropWhile_append_close (by decide)

/-- In a plain text, a value without quotes ends at the first blank. -/
theorem takeUnquoted_of_plain (h : Plain t) :
    takeUnquoted 0 (t ++ '>' :: rest) =
      (t.takeWhile (!isBlank ·), t.dropWhile (!isBlank ·) ++ '>' :: rest) := by
  induction t with
  | nil => simp [takeUnquoted]
  | cons c t ih =>
    have hc := h c List.mem_cons_self
    simp only [List.mem_cons, List.not_mem_nil, or_false, not_or] at hc
    rw [List.cons_append, takeUnquoted, if_neg hc.2.2.2.1, if_neg hc.2.2.2.2,
      ih (h.of_suffix (List.suffix_cons c t))]
    cases hb : isBlank c <;> simp [hb, hc.1]

/-- An unquoted value goes up to a blank or the end of the tag. -/
theorem takeValue?_equals (h : Plain t) :
    takeValue? ('=' :: (t ++ '>' :: rest)) =
      some (some ((skip t).takeWhile (!isBlank ·)),
        (skip t).dropWhile (!isBlank ·) ++ '>' :: rest) := by
  have hplain : Plain (skip t) := h.of_suffix (List.dropWhile_suffix _)
  have hequals : skip ('=' :: (t ++ '>' :: rest)) = '=' :: (t ++ '>' :: rest) :=
    List.dropWhile_cons_of_neg (by decide)
  have hvalue : takeUnquoted 0 (skip t ++ '>' :: rest) = _ := takeUnquoted_of_plain hplain
  rw [takeValue?, hequals]
  simp only
  rw [skip_append_close]
  cases hs : skip t with
  | nil => simp [takeUnquoted]
  | cons q r =>
    have hq := hplain q (hs ▸ List.mem_cons_self)
    simp only [List.mem_cons, List.not_mem_nil, or_false, not_or] at hq
    rw [hs, List.cons_append] at hvalue
    simp only [List.cons_append]
    rw [if_neg (by simp [hq.2.1, hq.2.2.1]), hvalue]

/-- Blanks in front of the equality sign do not count. -/
theorem takeValue?_of_skip_eq (hs : skip t = '=' :: r) : takeValue? t = takeValue? ('=' :: r) := by
  rw [takeValue?, takeValue?, hs, skip, List.dropWhile_cons_of_neg (by decide)]

/-- Without an equality sign there is no value. -/
theorem takeValue?_of_skip_ne (hs : skip t = c :: r) (hc : c ≠ '=') :
    takeValue? t = some (none, c :: r) := by
  rw [takeValue?, hs]
  split
  · next h => exact absurd (List.cons.inj h).1 hc
  · rfl

/-- What stands behind the name of an attribute is read up to where another one may begin. -/
theorem exists_takeValue? (h : Plain t) :
    ∃ value left, left <:+ t ∧ (Part.key.after t).isStray = (Part.gap.after left).isStray ∧
      ∀ rest, takeValue? (t ++ '>' :: rest) = some (value, left ++ '>' :: rest) := by
  have hsuffix : skip t <:+ t := List.dropWhile_suffix _
  have hafter : Part.key.after (skip t) = Part.key.after t := Part.after_skip_key
  have hskip : ∀ rest, skip (t ++ '>' :: rest) = skip t ++ '>' :: rest :=
    fun rest => skip_append_close
  cases hs : skip t with
  | nil =>
    refine ⟨none, [], List.nil_suffix, ?_, fun rest => ?_⟩
    · rw [← hafter, hs]
      rfl
    · rw [takeValue?_of_skip_ne (by rw [hskip, hs]; rfl) (by decide)]
      rfl
  | cons c r =>
    rw [hs] at hsuffix hafter
    have hb : isBlank c = false := isBlank_of_skip hs
    rw [← hafter]
    by_cases hc : c = '='
    · subst hc
      have hr : r <:+ t := (List.suffix_cons _ r).trans hsuffix
      refine ⟨some ((skip r).takeWhile (!isBlank ·)), (skip r).dropWhile (!isBlank ·), ?_, ?_,
        fun rest => ?_⟩
      · exact ((List.dropWhile_suffix _).trans (List.dropWhile_suffix _)).trans hr
      · refine Part.isStray_after_equals.trans ?_
        split
        · next hnil =>
          rw [hnil]
          rfl
        · rfl
      · rw [takeValue?_of_skip_eq (by rw [hskip, hs, List.cons_append]),
          takeValue?_equals (h.of_suffix hr)]
    · refine ⟨none, c :: r, hsuffix, ?_, fun rest => ?_⟩
      · simp [Part.after_cons, Part.next, hb, hc]
      · exact takeValue?_of_skip_ne (by rw [hskip, hs]; rfl) hc

/-- Behind a value without a name one character is passed over. -/
theorem takeAttributes?_nameless {value : Option (List Char)} (hs : skip t = '=' :: r)
    (hv : takeValue? ('=' :: r) = some (value, c :: rest)) (hc : c.utf8Size = 1) :
    takeAttributes? attributes selfClosing t = takeAttributes? attributes false rest := by
  rw [takeAttributes?_of_skip hs, if_neg (by decide), if_neg (by decide),
    List.dropWhile_cons_of_neg (by decide), hv]
  simp only [hc, if_true]
  rfl

/-- Reading a tag goes on behind some of what is in it. -/
def GoesOn (attributes : Attributes) (selfClosing : Bool) (inside r : List Char) : Prop :=
  ∃ attributes' selfClosing' left, left <:+ r ∧
    (Part.gap.after inside).isStray = (Part.gap.after left).isStray ∧
    ∀ rest, takeAttributes? attributes selfClosing (inside ++ '>' :: rest) =
      takeAttributes? attributes' selfClosing' (left ++ '>' :: rest)

/-- Reading a tag goes on behind its end. -/
def PassesOver (attributes : Attributes) (selfClosing : Bool) (inside : List Char) : Prop :=
  (Part.gap.after inside).isStray = true ∧
    ∀ rest, takeAttributes? attributes selfClosing (inside ++ '>' :: rest) =
      takeAttributes? attributes false rest

/-- A slash between attributes is passed over. -/
theorem goesOn_slash (hs : skip inside = '/' :: r) : GoesOn attributes selfClosing inside r := by
  refine ⟨attributes, true, r, List.suffix_rfl, ?_, fun rest => ?_⟩
  · rw [← Part.after_skip_gap, hs, Part.after_cons, Part.next, if_pos (Or.inr rfl)]
  · rw [takeAttributes?_of_skip (by rw [skip_append_close, hs, List.cons_append]),
      if_neg (by decide), if_pos rfl]

/-- It depends on what stands behind the value whether the end of the tag is passed over. -/
theorem passesOver_or_goesOn_nameless (h : Plain inside) (hs : skip inside = '=' :: r) :
    PassesOver attributes selfClosing inside ∨ GoesOn attributes selfClosing inside r := by
  have hskip : ∀ rest, skip (inside ++ '>' :: rest) = '=' :: (r ++ '>' :: rest) := fun rest => by
    rw [skip_append_close, hs, List.cons_append]
  have hv := fun rest => (takeValue?_equals (h.of_suffix (suffix_of_skip hs)) :
    takeValue? ('=' :: (r ++ '>' :: rest)) = _)
  have hstray : (Part.gap.after inside).isStray = ((Part.equals true).after r).isStray := by
    rw [← Part.after_skip_gap, hs]
    rfl
  rw [Part.isStray_after_equals] at hstray
  cases hd : (skip r).dropWhile (!isBlank ·) with
  | nil =>
    rw [hd, if_pos rfl] at hstray
    exact .inl ⟨hstray, fun rest =>
      takeAttributes?_nameless (hskip rest) (by rw [hv, hd]; rfl) (by decide)⟩
  | cons b left =>
    have hb : isBlank b = true := isBlank_of_dropWhile hd
    have hleft : left <:+ r := (List.suffix_cons b left).trans
      (hd ▸ (List.dropWhile_suffix _).trans (List.dropWhile_suffix _))
    rw [hd, if_neg (List.cons_ne_nil _ _), Part.after_blank_gap hb] at hstray
    exact .inr ⟨attributes, false, left, hleft, hstray, fun rest =>
      takeAttributes?_nameless (hskip rest) (by rw [hv, hd, List.cons_append])
        (utf8Size_eq_one_of_isBlank hb)⟩

/-- An attribute with a name is read, and the rest goes on behind its value. -/
theorem goesOn_named (h : Plain inside) (hs : skip inside = c :: r)
    (hc : endsAttributeName c = false) : GoesOn attributes selfClosing inside r := by
  have hsuffix : (c :: r).dropWhile (!endsAttributeName ·) <:+ r := by
    rw [List.dropWhile_cons_of_pos (by rw [hc]; rfl)]
    exact List.dropWhile_suffix _
  obtain ⟨value, left, hleft, hstray, hv⟩ :=
    exists_takeValue? (h.of_suffix (hsuffix.trans (suffix_of_skip hs)))
  refine ⟨Document.put (lower ((c :: r).takeWhile (!endsAttributeName ·)))
    (value.map String.ofList) attributes, false, left, hleft.trans hsuffix, ?_, fun rest => ?_⟩
  · rw [← Part.after_skip_gap, hs, Part.after_attributeName hc, hstray]
  · have hskip : skip (inside ++ '>' :: rest) = c :: (r ++ '>' :: rest) := by
      rw [skip_append_close, hs, List.cons_append]
    rw [takeAttributes?_named hskip hc
        (by rw [← List.cons_append, dropWhile_append_close (by decide), hv]),
      ← List.cons_append, takeWhile_append_close (by decide)]

/-- Every turn in a plain tag either passes over the end of it or goes on inside of it. -/
theorem passesOver_or_goesOn (h : Plain inside) (hs : skip inside = c :: r) :
    PassesOver attributes selfClosing inside ∨ GoesOn attributes selfClosing inside r := by
  cases hc : endsAttributeName c with
  | false => exact .inr (goesOn_named h hs hc)
  | true =>
    by_cases hslash : c = '/'
    · subst hslash
      exact .inr (goesOn_slash hs)
    · have hmem : c ∈ inside := (hs ▸ List.dropWhile_suffix _ : c :: r <:+ inside).subset
        List.mem_cons_self
      obtain rfl := eq_of_endsAttributeName hs hc (h.ne_close hmem) hslash
      exact passesOver_or_goesOn_nameless h hs

/-- Up to the end of a tag only what is in it counts. The end is passed over if it stands right
behind a value without a name; else there is nothing more to read. -/
theorem exists_takeAttributes? (h : Plain inside) (attributes : Attributes) (selfClosing : Bool) :
    ∃ found : Attributes × Bool, ∀ rest,
      takeAttributes? attributes selfClosing (inside ++ '>' :: rest) =
        if (Part.gap.after inside).isStray then takeAttributes? found.1 found.2 rest
        else .ok (some (found, rest)) := by
  induction hl : inside.length using Nat.strong_induction_on
    generalizing inside attributes selfClosing with
  | _ l ih =>
  subst hl
  cases hs : skip inside with
  | nil =>
    refine ⟨(attributes, selfClosing), fun rest => ?_⟩
    rw [← Part.after_skip_gap, hs]
    exact takeAttributes?_close (by rw [skip_append_close, hs]; rfl)
  | cons c r =>
    have hr : r <:+ inside := suffix_of_skip hs
    have hlt : r.length < inside.length := by
      have := length_skip_le inside
      rwa [hs] at this
    rcases passesOver_or_goesOn h hs with ⟨hstray, hread⟩ | ⟨_, _, left, hleft, hstray, hread⟩
    · exact ⟨(attributes, false), fun rest => by rw [hread, hstray, if_pos rfl]⟩
    · obtain ⟨found, hfound⟩ :=
        ih left.length (hleft.length_le.trans_lt hlt) (h.of_suffix (hleft.trans hr)) _ _ rfl
      exact ⟨found, fun rest => by rw [hread, hfound, hstray]⟩

/-! ## Start tags -/

/-- What is met behind a start tag. If the inside of the element is text, this comes first. -/
def eventsBehind (tag : StartTag) (rest : List Char) : Except Fault (List Event) :=
  if !tag.selfClosing && rawTags.contains tag.name then
    let raw := takeRaw tag.name.toList rest
    (eventsFrom [] raw.2).map (.text (String.ofList raw.1) :: ·)
  else eventsFrom [] rest

/-- A start tag that can be read is an event, behind the text before it. -/
theorem eventsFrom_of_takeStartTag? {run : List Char} (hn : n.isAlpha = true)
    (h : takeStartTag? (n :: r) = .ok (some (tag, rest))) :
    eventsFrom run ('<' :: n :: r) =
      (eventsBehind tag rest).map ([.ofRun run, .start tag] ++ ·) := by
  rw [eventsFrom_of_isAlpha hn, h, eventsBehind]
  dsimp only
  split
  · cases eventsFrom [] (takeRaw tag.name.toList rest).2 <;> rfl
  · rfl

theorem Part.isStray_after_name (h : Plain t) :
    (name.after t).isStray = (gap.after (t.dropWhile (!endsName ·))).isStray := by
  rw [← after_dropWhile (p := (!endsName ·)) fun c hc => by simp_all [endsName, next]]
  cases hd : t.dropWhile (!endsName ·) with
  | nil => rfl
  | cons c r =>
    have hsuffix : c :: r <:+ t := hd ▸ List.dropWhile_suffix _
    have hgt : c ≠ '>' := (h.of_suffix hsuffix).ne_close List.mem_cons_self
    have hc : isBlank c = true ∨ c = '/' := by
      simpa [endsName, hgt, or_iff_not_imp_left] using eq_false_of_dropWhile hd
    rw [after_cons, after_cons, next, next, if_pos hc, if_pos hc]

/-- A start tag without quotes and braces ends at its `>`, and what it says is in front of this,
unless the `>` stands right behind a value without a name. There it is not the end of the tag. -/
theorem takeStartTag?_of_plain (hn : n.isAlpha = true) (h : Plain (n :: inside)) :
    ((Part.name.after (n :: inside)).isStray = false →
      ∃ tag, tag.name = lower ((n :: inside).takeWhile (!endsName ·)) ∧ ∀ rest,
        takeStartTag? (n :: (inside ++ '>' :: rest)) = .ok (some (tag, rest)) ∧
        ∀ run, eventsFrom run ('<' :: n :: (inside ++ '>' :: rest)) =
          (eventsBehind tag rest).map ([.ofRun run, .start tag] ++ ·)) ∧
    ((Part.name.after (n :: inside)).isStray = true →
      ∀ tag rest, takeStartTag? (n :: (inside ++ '>' :: rest)) ≠ .ok (some (tag, rest))) := by
  have hplain : Plain ((n :: inside).dropWhile (!endsName ·)) :=
    h.of_suffix (List.dropWhile_suffix _)
  obtain ⟨found, hfound⟩ := exists_takeAttributes? hplain [] false
  rw [Part.isStray_after_name h]
  simp only [← List.cons_append]
  refine ⟨fun hstray => ?_, fun hstray tag rest ht => ?_⟩
  · let tag : StartTag := ⟨lower ((n :: inside).takeWhile (!endsName ·)), found.1, found.2⟩
    refine ⟨tag, rfl, fun rest => ?_⟩
    have htake : takeStartTag? (n :: inside ++ '>' :: rest) = .ok (some (tag, rest)) := by
      rw [takeStartTag?_eq_map, dropWhile_append_close (by decide),
        takeWhile_append_close (by decide), hfound, hstray, if_neg Bool.false_ne_true]
      rfl
    exact ⟨htake, fun run => eventsFrom_of_takeStartTag? hn htake⟩
  · rw [takeStartTag?_eq_map, dropWhile_append_close (by decide), hfound, hstray, if_pos rfl] at ht
    obtain ⟨more, hmore, hsome⟩ := ok_of_map_ok ht
    obtain ⟨⟨read, r⟩, rfl, hread⟩ := Option.map_eq_some_iff.1 hsome
    obtain ⟨-, rfl⟩ := Prod.mk.inj hread
    exact (length_takeAttributes? hmore).ne rfl

/-- A value without a name does no harm in the middle of a tag, and does at its end. -/
theorem takeStartTag?_of_nameless :
    (∃ tag, tag.name = "a" ∧ ∀ rest, takeStartTag? ("A =b c/ d= e".toList ++ '>' :: rest) =
      .ok (some (tag, rest))) ∧
    ∀ tag rest, takeStartTag? ("a c/=b".toList ++ '>' :: rest) ≠ .ok (some (tag, rest)) := by
  have hmiddle : Plain ('A' :: " =b c/ d= e".toList) := by decide
  have hend : Plain ('a' :: " c/=b".toList) := by decide
  obtain ⟨tag, hname, htag⟩ := (takeStartTag?_of_plain (by decide) hmiddle).1 (by decide)
  exact ⟨⟨tag, hname, fun rest => (htag rest).1⟩,
    (takeStartTag?_of_plain (by decide) hend).2 (by decide)⟩

/-- The end of the tag is passed over, and the text behind it is read as attributes. -/
theorem takeStartTag?_passed :
    takeStartTag? "a =>b</a>".toList =
      .ok (some (⟨"a", [("b<", none), ("a", none)], false⟩, [])) := by
  cbv

end Stencil.Markup
