import Stencil.Function.Apply
import Stencil.Proofs.Expr.Name
import Stencil.Proofs.Route.Match

/-!
# Addresses and matching

The address for strings is the template with the strings in the place of its captures
(`addressWith_of_assigns`). So it matches its template, and the same strings are found again,
exactly if it is cut at them; and a path that matches is the address for what was found in it
(`addressWith_match?`).
-/

namespace Stencil

/-- Joined values say what the values say one after the other. -/
theorem Value.text_join (vs : List Value) :
    (Value.join vs).text = String.join (vs.map Value.text) := by
  match vs with
  | [] => rfl
  | [v] => simp [Value.join]
  | _ :: _ :: _ => rfl

namespace Bindings

variable {α : Type} {bs : Bindings α} {name : String} {a : α}

theorem get?_eq_none (h : name ∉ bs.map Prod.fst) : get? name bs = none := by
  induction bs with
  | nil => rfl
  | cons b bs ih =>
    rw [List.map_cons, List.mem_cons, not_or] at h
    rw [get?_cons, ih h.2, Option.none_or, if_neg (Ne.symm h.1)]

/-- A name that is bound to one thing only, however often, holds it. -/
theorem get?_eq_some (hmem : name ∈ bs.map Prod.fst) (h : ∀ b ∈ bs, b.1 = name → b.2 = a) :
    get? name bs = some a := by
  induction bs with
  | nil => simp at hmem
  | cons b bs ih =>
    have hbs := fun b' hb' => h b' (List.mem_cons_of_mem b hb')
    rw [get?_cons]
    by_cases hin : name ∈ bs.map Prod.fst
    · rw [ih hin hbs, Option.some_or]
    · obtain hb : name = b.1 := by simpa [hin] using hmem
      rw [get?_eq_none hin, Option.none_or, if_pos hb.symm, h b List.mem_cons_self hb.symm]

end Bindings

namespace Segment

variable {s : String → String} {segments : List Segment}

/-- What a segment says where strings stand for names. -/
def saying (s : String → String) : Segment → String
  | literal text => text
  | expression e => s (Text.trimmed e)

theorem join_saying_plain (text : String) : String.join ((plain text).map (saying s)) = text := by
  rw [plain]
  split
  · next h => simp [h]
  · simp [saying]

/-- A text with captures behind it says what strings in the place of the captures say. -/
theorem Alternate.join_saying (h : Alternate segments) :
    String.join (segments.map (saying s)) =
      lead segments ++ String.join ((captures segments).map fun c => s c.name ++ c.behind) := by
  have hcaptures : ∀ cs : List Capture,
      String.join ((cs.flatMap Capture.segments).map (saying s)) =
        String.join (cs.map fun c => s c.name ++ c.behind) := by
    intro cs
    induction cs with
    | nil => rfl
    | cons c cs ih =>
      rw [List.flatMap_cons, List.map_append, String.join_append, ih, List.map_cons,
        String.join_cons, Capture.segments, List.map_cons, String.join_cons, join_saying_plain]
      rfl
  conv_lhs => rw [h.eq_plain_append.1]
  rw [List.map_append, String.join_append, join_saying_plain, hcaptures]

end Segment

namespace Route.Template

variable {t : Template} {s : String → String} {args : Bindings Value} {apply : Application}
  {site : Site}

/-- The arguments give each capture name its string, in any order, and nothing else. -/
structure Assigns (t : Template) (s : String → String) (args : Bindings Value) : Prop where
  value : ∀ b ∈ args, b.1 ∈ t.names ∧ b.2 = .str (s b.1)
  given : ∀ n ∈ t.names, n ∈ args.map Prod.fst

namespace Assigns

theorem known_eq (h : t.Assigns s args) : t.known args = args := by
  refine List.filter_eq_self.2 fun b hb => ?_
  obtain ⟨hn, hv⟩ := h.value b hb
  simp [hv, hn, Value.isNull]

theorem query_eq (h : t.Assigns s args) : t.query args = "" := by
  have hextra : t.extra args = [] := by
    refine List.filter_eq_nil_iff.2 fun b hb => ?_
    simp [(h.value b hb).1]
  rw [query, hextra]
  rfl

theorem get?_eq (h : t.Assigns s args) {n : String} (hn : n ∈ t.names) :
    (Context.ofBindings args).get? n = some (.str (s n)) := by
  have hget : Bindings.get? n args = some (.str (s n)) :=
    Bindings.get?_eq_some (h.given n hn) fun b hb hbn => by rw [(h.value b hb).2, hbn]
  rw [Context.ofBindings, Context.get?_extend, hget, Option.some_or]

/-- Every segment of the template says its own text or the string of its name. -/
theorem text_valueWith (h : t.Assigns s args) (hn : ∀ n ∈ t.names, Expr.IsName n) {seg : Segment}
    (hseg : seg ∈ t.segments) :
    (seg.valueWith apply (Context.ofBindings args) site).text = seg.saying s := by
  cases seg with
  | literal text => rfl
  | expression e =>
    have hmem : Text.trimmed e ∈ t.names :=
      List.mem_map.2 ⟨.expression e, List.mem_filter.2 ⟨hseg, rfl⟩, rfl⟩
    rw [Segment.valueWith, Expr.softlyWith_of_isName (hn _ hmem) (h.get?_eq hmem)]
    rfl

end Assigns

/-- A template with strings in the place of its captures, one segment after the other. -/
theorem filled_map_names (hs : Segment.Alternate t.segments) :
    t.filled (t.names.map s) = String.join (t.segments.map (Segment.saying s)) := by
  rw [hs.join_saying, filled, names_eq, captures, List.map_map, List.zipWith_map_left,
    List.zipWith_self]
  rfl

/-- The address for strings is the template with the strings in the place of its captures. -/
theorem addressWith_of_assigns (hs : Segment.Alternate t.segments)
    (hn : ∀ n ∈ t.names, Expr.IsName n) (h : t.Assigns s args) :
    t.addressWith apply site args = t.filled (t.names.map s) := by
  have hvalues : (Segment.valuesWith apply (Context.ofBindings args) site t.segments).map
      Value.text = t.segments.map (Segment.saying s) := by
    refine List.ext_getElem (by simp [Segment.valuesWith]) fun i hi _ => ?_
    simp [Segment.valuesWith, h.text_valueWith hn]
  rw [addressWith, h.query_eq, String.append_empty, fillWith, h.known_eq, Value.text_join, hvalues,
    filled_map_names hs]

theorem zip_names_eq_iff {values : List String} (hl : values.length = t.names.length) :
    (t.names.map fun n => (n, s n)) = t.names.zip values ↔ values = t.names.map s := by
  rw [List.map_prod_left_eq_zip]
  constructor
  · intro he
    have hsnd := congrArg (List.map Prod.snd) he
    rw [List.map_snd_zip (by simp), List.map_snd_zip hl.le] at hsnd
    exact hsnd.symm
  · rintro rfl
    rfl

theorem cuts_filled_iff :
    t.Cuts (t.filled (t.names.map s)) (t.names.map s) ↔
      ∀ c ∈ t.captures, c.Fits (s c.name).toList := by
  have hfits : List.Forall₂ (fun v c => Capture.Fits c v.toList) (t.names.map s) t.captures ↔
      ∀ c ∈ t.captures, c.Fits (s c.name).toList := by
    rw [names_eq, List.map_map, List.forall₂_map_left_iff, List.forall₂_same]
    rfl
  exact ⟨fun h => hfits.1 h.fits, fun h => ⟨rfl, hfits.2 h⟩⟩

/-- The template finds the strings in the address for them exactly if it is cut there. -/
theorem match?_filled_iff (hs : Segment.Alternate t.segments) (hc : t.captures ≠ []) :
    t.match? (t.filled (t.names.map s)) = some (t.names.map fun n => (n, s n)) ↔
      ∀ c ∈ t.captures, c.Fits (s c.name).toList := by
  rw [match?_of_captures_ne_nil hs hc, ← cuts_filled_iff]
  constructor
  · rintro ⟨values, hcuts, hfound⟩
    have hl : values.length = t.names.length := by
      rw [hcuts.fits.length_eq, names_eq, List.length_map]
    exact (zip_names_eq_iff hl).1 hfound ▸ hcuts
  · intro hcuts
    exact ⟨_, hcuts, (zip_names_eq_iff (by simp)).2 rfl⟩

/-- Values by which a path is cut are strings for the names if no name has two of them. -/
theorem Cuts.exists_assigns {path : String} {values : List String} (h : t.Cuts path values)
    (hsame : ∀ a ∈ t.names.zip values, ∀ b ∈ t.names.zip values, a.1 = b.1 → a.2 = b.2) :
    ∃ s : String → String,
      t.Assigns s ((t.names.zip values).map fun b => (b.1, .str b.2)) ∧ t.names.map s = values := by
  have hl : t.names.length = values.length := by
    rw [h.fits.length_eq, names_eq, List.length_map]
  have hfst : (t.names.zip values).map Prod.fst = t.names := List.map_fst_zip hl.le
  have hsnd : (t.names.zip values).map Prod.snd = values := List.map_snd_zip hl.ge
  have hget : ∀ b ∈ t.names.zip values, (Bindings.get? b.1 (t.names.zip values)).getD "" = b.2 := by
    intro b hb
    rw [Bindings.get?_eq_some (List.mem_map_of_mem hb) fun a ha => hsame a ha b hb]
    rfl
  refine ⟨fun n => (Bindings.get? n (t.names.zip values)).getD "", ⟨?_, ?_⟩, ?_⟩
  · intro b hb
    obtain ⟨a, ha, rfl⟩ := List.mem_map.1 hb
    exact ⟨(List.of_mem_zip ha).1, congrArg Value.str (hget a ha).symm⟩
  · intro n hn
    rw [List.map_map]
    exact hfst.symm ▸ hn
  · calc
      t.names.map (fun n => (Bindings.get? n (t.names.zip values)).getD "")
      _ = ((t.names.zip values).map Prod.fst).map
            fun n => (Bindings.get? n (t.names.zip values)).getD "" := by rw [hfst]
      _ = (t.names.zip values).map Prod.snd := by
        rw [List.map_map]
        exact List.map_congr_left hget
      _ = values := hsnd

/-- For a template with captures that are names: the address for strings, given as arguments in any
order, is the template with the strings in the place of its captures. The template finds the strings
in it exactly if the text behind each capture, where there is one, first occurs right behind the
string. And a path in which no name is found with two strings is the address for what is found. -/
theorem addressWith_match? (source : String) (hc : (ofString source).captures ≠ [])
    (hn : ∀ n ∈ (ofString source).names, Expr.IsName n) (apply : Application) (site : Site) :
    (∀ s args, (ofString source).Assigns s args →
      (ofString source).addressWith apply site args =
          (ofString source).filled ((ofString source).names.map s) ∧
        ((ofString source).match? ((ofString source).addressWith apply site args) =
            some ((ofString source).names.map fun n => (n, s n)) ↔
          ∀ c ∈ (ofString source).captures, c.Fits (s c.name).toList)) ∧
      ∀ path found, (ofString source).match? path = some found →
        (∀ a ∈ found, ∀ b ∈ found, a.1 = b.1 → a.2 = b.2) →
          (ofString source).addressWith apply site (found.map fun b => (b.1, .str b.2)) = path := by
  have hs : Segment.Alternate (ofString source).segments := Segment.alternate_parse source
  constructor
  · intro s args h
    have haddress : (ofString source).addressWith apply site args =
        (ofString source).filled ((ofString source).names.map s) :=
      addressWith_of_assigns hs hn h
    exact ⟨haddress, haddress ▸ match?_filled_iff hs hc⟩
  · intro path found hfound hsame
    obtain ⟨values, hcuts, rfl⟩ := (match?_of_captures_ne_nil hs hc).1 hfound
    obtain ⟨s, hassigns, hvalues⟩ := hcuts.exists_assigns hsame
    rw [addressWith_of_assigns hs hn hassigns, hvalues, hcuts.path_eq]

/-- The arguments stand in another order than the captures. Neither string holds the text behind its
capture, but the first one ends in the beginning of it, and so other strings are found in the
address. They have the same address. -/
theorem addressWith_match?_of_overlap :
    (ofString "/{a}--{b}").captures ≠ [] ∧
      (∀ n ∈ (ofString "/{a}--{b}").names, Expr.IsName n) ∧
      (ofString "/{a}--{b}").Assigns (fun n => if n = "a" then "x-" else "y")
        [("b", .str "y"), ("a", .str "x-")] ∧
      Text.occursIn "--".toList "x-".toList = false ∧
      (ofString "/{a}--{b}").address [] [("b", .str "y"), ("a", .str "x-")] = "/x---y" ∧
      (ofString "/{a}--{b}").match? "/x---y" = some [("a", "x"), ("b", "-y")] ∧
      (ofString "/{a}--{b}").address [] [("a", .str "x"), ("b", .str "-y")] = "/x---y" := by
  have hnames : (ofString "/{a}--{b}").names = ["a", "b"] := by cbv
  have hcaptures : (ofString "/{a}--{b}").captures = [⟨"a", "--"⟩, ⟨"b", ""⟩] := by cbv
  have hn : ∀ n ∈ (ofString "/{a}--{b}").names, Expr.IsName n := by
    rw [hnames]
    intro n hn
    rcases List.mem_cons.1 hn with rfl | hn
    · exact ⟨⟨'a', [], by decide, by decide, by simp⟩, by decide⟩
    · obtain rfl := List.mem_singleton.1 hn
      exact ⟨⟨'b', [], by decide, by decide, by simp⟩, by decide⟩
  have hc : (ofString "/{a}--{b}").captures ≠ [] := by
    rw [hcaptures]
    exact List.cons_ne_nil _ _
  have hassigns : (ofString "/{a}--{b}").Assigns (fun n => if n = "a" then "x-" else "y")
      [("b", .str "y"), ("a", .str "x-")] := by
    constructor <;> simp [hnames]
  have hfilled : (ofString "/{a}--{b}").filled ((ofString "/{a}--{b}").names.map
      fun n => if n = "a" then "x-" else "y") = "/x---y" := by cbv
  have hmatch : (ofString "/{a}--{b}").match? "/x---y" = some [("a", "x"), ("b", "-y")] := by cbv
  obtain ⟨hto, hfrom⟩ := addressWith_match? "/{a}--{b}" hc hn Function.applyNested []
  have haddress :
      (ofString "/{a}--{b}").address [] [("b", .str "y"), ("a", .str "x-")] = "/x---y" :=
    (hto _ _ hassigns).1.trans hfilled
  have hback := hfrom _ _ hmatch (by simp)
  rw [List.map_cons, List.map_cons, List.map_nil] at hback
  exact ⟨hc, hn, hassigns, by decide, haddress, hmatch, hback⟩

end Route.Template

end Stencil
