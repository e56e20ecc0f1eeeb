import Stencil.Proofs.Markup.Tidy

/-!
# The inside of raw elements

What stands in a raw element is cut off at the first end tag that begins with its name, and the page
is read on from there as usual. This end tag closes the element if its name ends where that of the
element does. If it goes on (`LooseEnd`) it is the end tag of something else, and what follows may
become elements inside the raw one. In the events of a page where this does not happen
(`NothingRunsOn`) there are only texts in a raw element before its end tag (`Orderly`). So a builder
that takes them in puts nothing else into raw elements (`Builder.Keeps`), and in the document each
of them has one child at most, a text (`children_of_parse`).
-/

namespace Stencil

namespace Document

variable {d d' : Document} {k m n p : Nat}

/-- Elements whose inside is text. -/
def IsRaw (d : Document) (n : Nat) : Prop := ∃ tag ∈ d.tag? n, tag ∈ Markup.rawTags

/-- There are no children but texts in raw elements. -/
def KeepsRaw (d : Document) : Prop :=
  ∀ n p, (d.node n).parent = some p → d.IsRaw p → d.isText n = true

/-- Whether a node is raw depends on its tag alone. -/
theorem IsRaw.congr (h : d.IsRaw n) (ht : d'.tag? m = d.tag? n) : d'.IsRaw m := by
  obtain ⟨tag, htag, hraw⟩ := h
  exact ⟨tag, ht ▸ htag, hraw⟩

theorem isText_of_size_le (h : d.size ≤ n) : d.isText n = true := by
  rw [isText, node_of_size_le h]
  rfl

/-- Texts have no tag. -/
theorem tag?_of_isText (h : d.isText n = true) : d.tag? n = none := by
  obtain ⟨content, hk⟩ := isText_eq_true.1 h
  rw [tag?, hk]

/-- Nodes that were there keep their tags. -/
theorem Grows.tag?_eq (h : Grows k p d d') (hn : n < k) : d'.tag? n = d.tag? n := by
  cases ht : d.isText n with
  | false => exact tag?_congr (h.kind_eq n hn ht)
  | true => rw [tag?_of_isText ht, tag?_of_isText ((h.isText_eq n hn).trans ht)]

/-- It is enough to look at nodes that were not there before. -/
theorem KeepsRaw.grows (h : d.KeepsRaw) (hd : d.WellFormed) (hg : Grows d.size p d d')
    (hnew : ∀ n q, d.size ≤ n → (d'.node n).parent = some q → d'.IsRaw q → d'.isText n = true) :
    d'.KeepsRaw := by
  intro n q hq hraw
  rcases Nat.lt_or_ge n d.size with hn | hn
  · rw [hg.parent_eq n hn] at hq
    rw [hg.isText_eq n hn]
    exact h n q hq (hraw.congr (hg.tag?_eq (hd.lt_size_of_parent hq).2).symm)
  · exact hnew n q hn hq hraw

/-- What comes new with a text is a text. -/
theorem isText_appendText_of_size_le {content : String} (hn : d.size ≤ n) :
    (d.appendText p content).isText n = true := by
  by_cases hc : content = ""
  · rw [Document.appendText, if_pos hc, isText_of_size_le hn]
  · cases hl : d.lastText? p with
    | none =>
      rw [appendText_of_lastText?_eq_none hl hc, isText_congr (n := n) kind_append]
      rcases hn.eq_or_lt with rfl | hn
      · rw [isText, node_add_size]
        rfl
      · exact isText_of_size_le (by rwa [size_add])
    | some found =>
      rw [Document.appendText, if_neg hc, hl]
      exact isText_of_size_le (by rwa [size_modify])

/-- Texts do not stand next to each other, so where there are only texts there is one at most. -/
theorem Tidy.length_children_le_one (h : d.Tidy)
    (ht : ∀ c ∈ (d.node n).children, d.isText c = true) : (d.node n).children.length ≤ 1 := by
  cases hc : (d.node n).children with
  | nil => exact Nat.zero_le 1
  | cons a rest =>
    cases rest with
    | nil => exact Nat.le_refl 1
    | cons b rest =>
      rw [hc] at ht
      have hnext : (d.node a).next = some b := (h.wellFormed.neighbours n [] a _ hc).2
      have hlt : a < d.size :=
        (h.wellFormed.lt_size_of_parent (h.wellFormed.mem_children.1 (hc ▸ List.mem_cons_self))).1
      have hb := (h.tidyAt a hlt).next_isText (ht a List.mem_cons_self) b hnext
      simp [ht b (List.mem_cons_of_mem _ List.mem_cons_self)] at hb

end Document

namespace Markup

open Document

variable {cs r rest written after inside : List Char} {c : Char} {name : String}
  {events : List Event} {event : Event} {within : Option String} {tag : StartTag}
  {d d' : Document} {opened : List Nat} {p : Nat} {b : Builder}

/-! ## End tags that go on -/

/-- An end tag that begins with the name of a raw element and goes on with something else. -/
def LooseEnd (cs : List Char) : Prop :=
  ∃ written c after, cs = '<' :: '/' :: (written ++ c :: after) ∧ lower written ∈ rawTags ∧
    isBlank c = false ∧ c ≠ '>' ∧ '>' ∈ after

/-- A start tag of a raw element, and such an end tag cuts off what stands in the element. -/
def RunsOn (cs : List Char) : Prop :=
  ∃ r tag rest, cs = '<' :: r ∧ takeStartTag? r = .ok (some (tag, rest)) ∧
    tag.selfClosing = false ∧ tag.name ∈ rawTags ∧ LooseEnd (takeRaw tag.name.toList rest).2

/-- There is no raw element anywhere that runs on. -/
def NothingRunsOn (cs : List Char) : Prop := ∀ t ∈ cs.tails, ¬ RunsOn t

/-- `LooseEnd` as a check. -/
def isLooseEnd : List Char → Bool
  | '<' :: '/' :: cs => rawTags.any fun name =>
      lower (cs.take name.length) == name &&
        match cs.drop name.length with
        | c :: after => !isBlank c && c != '>' && after.contains '>'
        | [] => false
  | _ => false

theorem length_lower (cs : List Char) : (lower cs).length = cs.length := by
  rw [lower, String.length_ofList, List.length_map]

/-- Whether a text begins with a loose end can be decided. -/
theorem looseEnd_iff : LooseEnd cs ↔ isLooseEnd cs = true := by
  constructor
  · rintro ⟨written, c, after, rfl, hname, hb, hc, hafter⟩
    refine List.any_eq_true.2 ⟨lower written, hname, ?_⟩
    simp [length_lower, hb, hc, hafter]
  · intro h
    unfold isLooseEnd at h
    split at h
    · next cs =>
      obtain ⟨name, hname, h⟩ := List.any_eq_true.1 h
      rw [Bool.and_eq_true, beq_iff_eq] at h
      obtain ⟨hlower, h⟩ := h
      split at h
      · next c after hdrop =>
        simp only [Bool.and_eq_true, Bool.not_eq_true', bne_iff_ne, ne_eq,
          List.contains_iff_mem] at h
        refine ⟨cs.take name.length, c, after, ?_, ?_, h.1.1, h.1.2, h.2⟩
        · rw [← hdrop, List.take_append_drop]
        · rw [hlower]
          exact hname
      · simp at h
    · simp at h

instance : DecidablePred LooseEnd := fun _ => decidable_of_iff _ looseEnd_iff.symm

/-- `RunsOn` as a check. -/
def isRunOn : List Char → Bool
  | '<' :: r =>
    match takeStartTag? r with
    | .ok (some (tag, rest)) =>
      !tag.selfClosing && rawTags.contains tag.name && isLooseEnd (takeRaw tag.name.toList rest).2
    | _ => false
  | _ => false

/-- Whether a raw text runs on can be decided. -/
theorem runsOn_iff : RunsOn cs ↔ isRunOn cs = true := by
  constructor
  · rintro ⟨r, tag, rest, rfl, ht, hclosing, hname, hend⟩
    simp only [isRunOn, ht, hclosing, List.contains_iff_mem.2 hname, looseEnd_iff.1 hend]
    rfl
  · intro h
    unfold isRunOn at h
    split at h
    · next r =>
      split at h
      · next tag rest ht =>
        simp only [Bool.and_eq_true, Bool.not_eq_true', List.contains_iff_mem] at h
        exact ⟨r, tag, rest, rfl, ht, h.1.1, h.1.2, looseEnd_iff.2 h.2⟩
      · simp at h
    · simp at h

instance : DecidablePred RunsOn := fun _ => decidable_of_iff _ runsOn_iff.symm

instance : DecidablePred NothingRunsOn := fun cs => List.decidableBAll _ cs.tails

/-- If nothing runs on in a text, nothing does in the end of it. -/
theorem NothingRunsOn.of_suffix (h : NothingRunsOn cs) (hr : r <:+ cs) : NothingRunsOn r :=
  fun t ht => h t ((List.mem_tails ..).2 (((List.mem_tails ..).1 ht).trans hr))

theorem NothingRunsOn.of_cons (h : NothingRunsOn (c :: cs)) : NothingRunsOn cs :=
  h.of_suffix (List.suffix_cons c cs)

theorem NothingRunsOn.not_runsOn (h : NothingRunsOn cs) : ¬ RunsOn cs :=
  h cs ((List.mem_tails ..).2 List.suffix_rfl)

/-! ## The events of raw elements -/

/-- What stands in a raw element ends at the end of the page or at an end tag that begins with the
name. -/
theorem takeRaw_eq_nil_or (name : String) (cs : List Char) :
    (takeRaw name.toList cs).2 = [] ∨ ∃ written after,
      (takeRaw name.toList cs).2 = '<' :: '/' :: (written ++ after) ∧ lower written = name := by
  induction cs with
  | nil => exact .inl rfl
  | cons c cs ih =>
    rw [takeRaw]
    dsimp only
    split
    · next h =>
      cases cs with
      | nil => simp at h
      | cons x cs =>
        simp only [List.length_cons, List.take_succ_cons, List.map_cons, List.cons.injEq] at h
        obtain ⟨hc, hx, hname⟩ := h
        obtain rfl := Text.eq_of_toLower_eq (by decide) hc
        obtain rfl := Text.eq_of_toLower_eq (by decide) hx
        refine .inr ⟨cs.take name.toList.length, cs.drop name.toList.length, ?_, ?_⟩
        · rw [List.take_append_drop]
        · rw [lower, hname, String.ofList_toList]
    · exact ih

/-- The names of raw elements are written in letters. -/
theorem isAlpha_of_lower_mem_rawTags (h : lower written ∈ rawTags) (hc : c ∈ written) :
    c.isAlpha = true := by
  have hletters : ∀ name ∈ rawTags, ∀ x ∈ name.toList, x.isLower = true := by
    simp [rawTags]
  have hlower := hletters _ h c.toLower (by
    rw [lower, String.toList_ofList]
    exact List.mem_map_of_mem hc)
  cases hu : c.isUpper with
  | true => rw [Char.isAlpha, hu, Bool.true_or]
  | false =>
    rw [Text.toLower_eq_self hu] at hlower
    rw [Char.isAlpha, hlower, Bool.or_true]

/-- An end tag that begins with the name of a raw element and is not loose has this name. -/
theorem endTagName_of_not_looseEnd (h : lower written ∈ rawTags)
    (hl : ¬ LooseEnd ('<' :: '/' :: (written ++ after)))
    (hs : Text.splitAtFirst? ['>'] (written ++ after) = some (inside, rest)) :
    endTagName inside = lower written := by
  obtain ⟨heq, hfirst⟩ := Text.splitAtFirst?_eq_some_iff.1 hs
  have hgt : '>' ∉ inside := Text.firstBehind_singleton.1 hfirst
  have hwritten : ∀ c ∈ written, endsName c = false := fun c hc =>
    endsName_eq_false_of_isAlpha (isAlpha_of_lower_mem_rawTags h hc)
  obtain ⟨more, rfl, hmore⟩ : ∃ more, inside = written ++ more ∧ after = more ++ '>' :: rest := by
    rw [List.append_assoc, List.singleton_append] at heq
    rcases List.append_eq_append_iff.1 heq with ⟨more, hin, hafter⟩ | ⟨more, hw, hrest⟩
    · exact ⟨more, hin, hafter⟩
    · cases more with
      | nil => exact ⟨[], by simp [hw], by simpa using hrest.symm⟩
      | cons c more =>
        obtain ⟨rfl, -⟩ := List.cons.inj hrest
        exact absurd (hwritten '>' (by simp [hw])) (by decide)
  have hblank : more.takeWhile (!isBlank ·) = [] := by
    cases more with
    | nil => rfl
    | cons c more =>
      have hc : isBlank c = true := by
        by_contra hc
        refine hl ⟨written, c, more ++ '>' :: rest, by rw [hmore, List.cons_append], h, ?_, ?_, ?_⟩
        · simpa using hc
        · rintro rfl
          exact hgt (by simp)
        · simp
      exact List.takeWhile_cons_of_neg (by simp [hc])
  rw [endTagName, List.takeWhile_append_of_pos fun c hc => ?_, hblank, List.append_nil]
  have hc' := hwritten c hc
  simp only [endsName, Bool.or_eq_false_iff] at hc'
  rw [hc'.1.1, Bool.not_false]

/-- The raw element that a start tag leads into. -/
def StartTag.raw? (tag : StartTag) : Option String :=
  if !tag.selfClosing && rawTags.contains tag.name then some tag.name else none

/-- In a raw element there are texts up to its end tag. -/
def Orderly : Option String → List Event → Prop
  | _, [] => True
  | within, .text _ :: events => Orderly within events
  | within, .start tag :: events => within = none ∧ Orderly tag.raw? events
  | within, .finish name :: events => (∀ n ∈ within, name = n) ∧ Orderly none events

/-- A text may stand anywhere. -/
theorem orderly_text {content : String} :
    Orderly within (.text content :: events) ↔ Orderly within events := by
  rw [Orderly]

/-- What lies between two tags is a text or nothing. -/
theorem orderly_ofRun {run : List Char} :
    Orderly within (.ofRun run :: events) ↔ Orderly within events :=
  orderly_text

/-- Behind a start tag one is inside of it if its content is raw. -/
theorem orderly_start : Orderly none (.start tag :: events) ↔ Orderly tag.raw? events := by
  rw [Orderly]
  simp only [true_and]

/-- Where what stands in a raw element ends, its end tag comes next if there is one. -/
theorem Orderly.of_takeRaw (ho : Orderly none events) (hname : name ∈ rawTags)
    (hl : ¬ LooseEnd (takeRaw name.toList cs).2)
    (he : eventsFrom [] (takeRaw name.toList cs).2 = .ok events) : Orderly (some name) events := by
  rcases takeRaw_eq_nil_or name cs with hr | ⟨written, after, hr, rfl⟩
  · rw [hr, eventsFrom_nil] at he
    obtain rfl := Except.ok.inj he
    exact ho
  · rw [hr] at he hl
    cases written with
    | nil => exact absurd hname (by decide)
    | cons n w =>
      have hn : n.isAlpha = true := isAlpha_of_lower_mem_rawTags hname List.mem_cons_self
      cases hs : Text.splitAtFirst? ['>'] (n :: w ++ after) with
      | none =>
        rw [List.cons_append] at he hs
        rw [eventsFrom_openEndTag hn hs] at he
        obtain rfl := Except.ok.inj he
        exact ho
      | some found =>
        obtain ⟨inside, rest⟩ := found
        have hend := endTagName_of_not_looseEnd hname hl hs
        rw [List.cons_append] at he hs
        rw [eventsFrom_endTag hn hs] at he
        cases hmore : eventsFrom [] rest with
        | error fault => simp [hmore, Except.map] at he
        | ok more =>
          rw [hmore] at he
          obtain rfl := Except.ok.inj he
          exact ⟨fun n hn => hend.trans (Option.mem_some.1 hn), ho.2⟩

/-- The events of a page in which nothing runs on are orderly. -/
theorem orderly_of_eventsFrom {run : List Char} (hl : NothingRunsOn cs)
    (h : eventsFrom run cs = .ok events) : Orderly none events := by
  fun_induction eventsFrom run cs generalizing events with
  | case1 =>
    obtain rfl := Except.ok.inj h
    trivial
  | case2 _ _ _ _ ih => exact ih hl.of_cons h
  | case3 _ _ _ _ ih =>
    obtain ⟨more, hmore, rfl⟩ := ok_of_map_ok h
    exact orderly_ofRun.2
      (ih (hl.of_cons.of_cons.of_cons.of_cons.of_suffix (suffix_dropThrough _)) hmore)
  | case4 _ _ _ _ _ ih | case5 _ _ _ _ ih =>
    obtain ⟨more, hmore, rfl⟩ := ok_of_map_ok h
    exact orderly_ofRun.2 (ih (hl.of_cons.of_cons.of_suffix (suffix_dropThrough _)) hmore)
  | case6 =>
    obtain rfl := Except.ok.inj h
    trivial
  | case7 _ _ _ _ _ _ _ _ hsplit ih =>
    obtain ⟨more, hmore, rfl⟩ := ok_of_map_ok h
    exact ⟨by simp, ih (hl.of_cons.of_cons.of_suffix (suffix_of_splitAtFirst? hsplit)) hmore⟩
  | case8 _ _ _ _ _ _ ih => exact ih hl.of_cons h
  | case9 => simp at h
  | case10 =>
    obtain rfl := Except.ok.inj h
    trivial
  | case11 _ c hc _ _ _ _ _ _ _ tag rest ht hraw =>
    rename_i ih
    obtain rfl : c = '<' := not_not.1 hc
    obtain ⟨more, hmore, rfl⟩ := ok_of_map_ok h
    have hrest : NothingRunsOn (takeRaw tag.name.toList rest).2 :=
      (hl.of_cons.of_suffix (suffix_of_takeStartTag? ht)).of_suffix (suffix_takeRaw _)
    refine orderly_ofRun.2 (orderly_start.2 ?_)
    rw [StartTag.raw?, if_pos hraw]
    simp only [Bool.and_eq_true, Bool.not_eq_true', List.contains_iff_mem] at hraw
    have hend : ¬ LooseEnd (takeRaw tag.name.toList rest).2 := fun hend =>
      hl.not_runsOn ⟨_, tag, rest, rfl, ht, hraw.1, hraw.2, hend⟩
    exact (ih hrest hmore).of_takeRaw hraw.2 hend hmore
  | case12 _ _ _ _ _ _ _ _ _ _ _ _ ht hraw ih =>
    obtain ⟨more, hmore, rfl⟩ := ok_of_map_ok h
    refine orderly_ofRun.2 (orderly_start.2 ?_)
    rw [StartTag.raw?, if_neg hraw]
    exact ih (hl.of_cons.of_suffix (suffix_of_takeStartTag? ht)) hmore
  | case13 _ _ _ _ _ _ _ _ _ _ ih => exact ih hl.of_cons h
  | case14 _ _ _ ih => exact ih hl.of_cons h

/-! ## A builder in a raw element -/

/-- Of the open elements the innermost is raw if a builder is within one, and no other. -/
inductive Within (d : Document) : Option String → List Nat → Prop
  | outside {opened : List Nat} (h : ∀ n ∈ opened, ¬ d.IsRaw n) : Within d none opened
  | inside {n : Nat} {name : String} {opened : List Nat} (hn : d.tag? n = some name)
    (h : ∀ n ∈ opened, ¬ d.IsRaw n) : Within d (some name) (n :: opened)

/-- The elements that are open are nodes of the document. -/
theorem Nested.lt_size (h : Nested d opened) (hd : d.WellFormed) : ∀ n ∈ opened, n < d.size := by
  induction h with
  | nil => simp
  | cons hp _ _ _ ih => exact List.forall_mem_cons.2 ⟨(hd.lt_size_of_parent hp).1, ih⟩

/-- Where one is does not change when the document grows. -/
theorem Within.grows (h : Within d within opened) (hlt : ∀ n ∈ opened, n < d.size)
    (hg : Grows d.size p d d') : Within d' within opened := by
  have hraw : ∀ n < d.size, ¬ d.IsRaw n → ¬ d'.IsRaw n := fun n hn hno hraw =>
    hno (hraw.congr (hg.tag?_eq hn).symm)
  cases h with
  | outside h => exact .outside fun n hn => hraw n (hlt n hn) (h n hn)
  | inside hn h =>
    rw [List.forall_mem_cons] at hlt
    exact .inside ((hg.tag?_eq hlt.1).trans hn) fun n hn => hraw n (hlt.2 n hn) (h n hn)

/-- Outside of raw elements things do not go into one. -/
theorem Within.not_isRaw_headD (h : Within d none opened) (hd : d.WellFormed) :
    ¬ d.IsRaw (opened.headD root) := by
  cases h with
  | outside h =>
    cases opened with
    | nil =>
      rintro ⟨tag, htag, -⟩
      simp [tag?, (hd.kind_eq_document root).2 rfl] at htag
    | cons n opened => exact h n List.mem_cons_self

namespace Builder

/-- A builder that keeps raw elements free of anything but text, and where it is. -/
structure Keeps (b : Builder) (within : Option String) : Prop where
  sound : b.Sound
  keepsRaw : b.document.KeepsRaw
  within : Within b.document within b.opened

namespace Keeps

/-- At first nothing is open. -/
theorem start : Builder.start.Keeps none where
  sound := .start
  keepsRaw n p hp := by
    have hn := (Sound.start.tidy.wellFormed.lt_size_of_parent hp).1
    obtain rfl : n = 0 := Nat.lt_one_iff.1 hn
    simp [Builder.start, Document.empty, node, Node.detached] at hp
  within := .outside (by simp [Builder.start])

theorem opened_lt_size (h : b.Keeps within) : ∀ n ∈ b.opened, n < b.document.size :=
  h.sound.nested.lt_size h.sound.tidy.wellFormed

/-- A text goes to where one is. -/
theorem step_text (h : b.Keeps within) (content : String) :
    (b.step (.text content)).Keeps within := by
  have hd := h.sound.tidy.wellFormed
  have hp := h.sound.canHold
  have hg := grows_appendText hd hp.lt_size hp.isText_eq content
  exact ⟨h.sound.step (by simp),
    h.keepsRaw.grows hd hg fun n _ hn _ _ => isText_appendText_of_size_le hn,
    h.within.grows h.opened_lt_size hg⟩

/-- A start tag makes no child of a raw element, as none is open there. -/
theorem keepsRaw_start (h : b.Keeps none) (ht : tag.Named) :
    (b.step (.start tag)).document.KeepsRaw := by
  have hd := h.sound.tidy.wellFormed
  have hg := h.sound.grows_start tag
  have hlast := h.sound.hasLast_start ht
  refine h.keepsRaw.grows hd hg fun n q hn hq hraw => ?_
  -- the only new node is put in where the builder is, which is not in a raw element
  have hlt : n < b.document.size + 1 := hlast.size_eq ▸ (hlast.wellFormed.lt_size_of_parent hq).1
  obtain rfl : n = b.document.size := Nat.le_antisymm (Nat.le_of_lt_succ hlt) hn
  rw [hlast.node_size] at hq
  obtain rfl := Option.some.inj hq
  have htag := hg.tag?_eq h.sound.canHold.lt_size
  exact absurd (hraw.congr htag.symm) (h.within.not_isRaw_headD hd)

/-- A start tag leads into a raw element exactly if what follows it is read as text. -/
theorem step_start (h : b.Keeps none) (ht : tag.Named) :
    (b.step (.start tag)).Keeps tag.raw? := by
  have hin := h.within.grows h.opened_lt_size (h.sound.grows_start tag)
  have htag : (b.step (.start tag)).document.tag? b.document.size = some tag.name := by
    rw [tag?, (h.sound.hasLast_start ht).node_size]
  refine ⟨h.sound.step_start ht, h.keepsRaw_start ht, ?_⟩
  rw [opened_step_start, StartTag.raw?]
  cases hin with
  | outside hin =>
    by_cases hraw : tag.name ∈ rawTags
    · have hv : ∀ name ∈ rawTags, isVoid name = false := by decide
      rw [hv _ hraw, List.contains_iff_mem.2 hraw]
      cases tag.selfClosing with
      | true => exact .outside hin
      | false => exact .inside htag hin
    · have hnot : rawTags.contains tag.name = false := by simpa using hraw
      rw [hnot, Bool.and_false, if_neg Bool.false_ne_true]
      split
      · refine .outside (List.forall_mem_cons.2 ⟨?_, hin⟩)
        rintro ⟨name, hname, hmem⟩
        obtain rfl := Option.some.inj (htag.symm.trans hname)
        exact hraw hmem
      · exact .outside hin

/-- The end tag of a raw element closes it, and nothing else was opened inside. -/
theorem step_finish (h : b.Keeps within) (hn : ∀ n ∈ within, name = n) :
    (b.step (.finish name)).Keeps none := by
  refine ⟨h.sound.step (by simp), ?_, ?_⟩
  · rw [Builder.step]
    split <;> exact h.keepsRaw
  · have hnested := h.sound.nested
    obtain ⟨d, opened⟩ := b
    cases h.within with
    | outside hw =>
      rw [Builder.step]
      split
      · exact .outside hw
      · exact .outside fun n hn => hw n ((close_suffix _ _ _).subset hn)
    | inside htag hw =>
      obtain rfl := hn _ rfl
      cases hnested with
      | cons _ hk hv _ =>
        rw [tag?, hk] at htag
        obtain rfl := Option.some.inj htag
        rw [Builder.step, if_neg (by simp [hv]), close_cons (by rw [tag?, hk])]
        exact .outside hw

/-- One event keeps the content of raw elements what it is, and the rest of the events is orderly
again. -/
theorem step (h : b.Keeps within) (he : ∀ tag, event = .start tag → tag.Named)
    (ho : Orderly within (event :: events)) :
    ∃ within', (b.step event).Keeps within' ∧ Orderly within' events := by
  cases event with
  | text content => exact ⟨within, h.step_text content, orderly_text.1 ho⟩
  | start tag =>
    obtain ⟨rfl, ho⟩ := ho
    exact ⟨_, h.step_start (he tag rfl), ho⟩
  | finish name => exact ⟨none, h.step_finish ho.1, ho.2⟩

/-- So do all events. -/
theorem run (h : b.Keeps within) (he : ∀ tag, .start tag ∈ events → tag.Named)
    (ho : Orderly within events) : ∃ within', (b.run events).Keeps within' := by
  induction events generalizing b within with
  | nil => exact ⟨within, h⟩
  | cons event events ih =>
    obtain ⟨within', h', ho'⟩ := h.step (fun tag ht => he tag (ht ▸ List.mem_cons_self)) ho
    exact ih h' (fun tag ht => he tag (List.mem_cons_of_mem _ ht)) ho'

end Keeps

end Builder

/-- In the document of a page where no raw element runs on, each raw element has one child at most,
and this is a text. -/
theorem children_of_parse {source : String} (h : parse source = .ok d)
    (hl : NothingRunsOn source.toList) (n : Nat) (hn : d.IsRaw n) :
    (d.node n).children.length ≤ 1 ∧ ∀ c ∈ (d.node n).children, d.isText c = true := by
  have htidy := tidy_run_of_parse h
  obtain ⟨events, hevents, rfl⟩ := ok_of_map_ok h
  obtain ⟨_, hkeeps⟩ := Builder.Keeps.start.run (fun _ => named_of_eventsFrom hevents)
    (orderly_of_eventsFrom hl hevents)
  have hc : ∀ c ∈ _, Document.isText _ c = true := fun c hc =>
    hkeeps.keepsRaw c n (htidy.wellFormed.mem_children.1 hc) hn
  exact ⟨htidy.length_children_le_one hc, hc⟩

/-- Tags in the body of a raw element are text. Loose end tags elsewhere do no harm. -/
theorem children_of_rawPage :
    ∃ d, parse "<p><Script>a<b></p></SCRIPT\n></scripts><style>i</style" = .ok d ∧ d.IsRaw 2 ∧
      (d.node 2).children.length ≤ 1 ∧ ∀ c ∈ (d.node 2).children, d.isText c = true := by
  have htag : (parse "<p><Script>a<b></p></SCRIPT\n></scripts><style>i</style").map (·.tag? 2) =
      .ok (some "script") := by
    decide +kernel
  cases hp : parse "<p><Script>a<b></p></SCRIPT\n></scripts><style>i</style" with
  | error fault => simp [hp, Except.map] at htag
  | ok d =>
    rw [hp] at htag
    have hraw : d.IsRaw 2 := ⟨"script", Except.ok.inj htag, by decide⟩
    exact ⟨d, rfl, hraw, children_of_parse hp (by decide +kernel) 2 hraw⟩

/-- The name of the end tag goes on, so the element stays open and has another one inside. -/
theorem parse_looseEnd :
    (parse "<script></scriptx><b></b></script>").map
        (fun d => (d.tag? 1, (d.node 1).children, d.tag? 2)) =
      .ok (some "script", [2], some "b") := by
  decide +kernel

end Markup

end Stencil
