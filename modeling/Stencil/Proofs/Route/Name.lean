import Mathlib.Algebra.Order.BigOperators.Group.List
import Mathlib.Algebra.Order.Group.Nat
import Stencil.Proofs.Expr.Vocabulary
import Stencil.Proofs.Route.Address

/-!
# Captures that are no names

Matching takes the text of a capture as it is, an address evaluates it. The two agree exactly if
every capture is a name (`forall_addressWith_eq_filled_iff`). For one that is not, such as `user-id`
or `in`, nothing that is looked up is called like the capture, and the string that is given for it
is lost (`addressWith_congr`).
-/

namespace Stencil

namespace Route.Template

variable {t : Template} {s s' : String → String} {args args' : Bindings Value}
  {apply : Application} {site : Site} {n : String}

/-- Strings for the captures as arguments in the order of the template. -/
theorem assigns_map_names (t : Template) (s : String → String) :
    t.Assigns s (t.names.map fun n => (n, .str (s n))) where
  value b hb := by
    obtain ⟨n, hn, rfl⟩ := List.mem_map.1 hb
    exact ⟨hn, rfl⟩
  given n hn := by
    rw [List.map_map]
    exact List.mem_map.2 ⟨n, hn, rfl⟩

namespace Assigns

theorem get?_eq_none (h : t.Assigns s args) (hn : n ∉ t.names) :
    (Context.ofBindings args).get? n = none := by
  have hargs : n ∉ args.map Prod.fst := by
    intro hm
    obtain ⟨b, hb, rfl⟩ := List.mem_map.1 hm
    exact hn (h.value b hb).1
  rw [Context.ofBindings, Context.get?_extend, Bindings.get?_eq_none hargs, Option.none_or,
    Context.get?_empty]

/-- Arguments that give the same strings for the captures that are names bind names alike. -/
theorem agreeOn (h : t.Assigns s args) (h' : t.Assigns s' args')
    (hs : ∀ n ∈ t.names, Expr.IsName n → s n = s' n) {names : List String}
    (hnames : ∀ n ∈ names, Expr.IsName n) :
    (Context.ofBindings args).AgreeOn names (Context.ofBindings args') := by
  intro n hn
  by_cases hm : n ∈ t.names
  · rw [h.get?_eq hm, h'.get?_eq hm, hs n hm (hnames n hn)]
  · rw [h.get?_eq_none hm, h'.get?_eq_none hm]

end Assigns

/-- What is given for a capture that is no name makes no difference to the address. -/
theorem addressWith_congr (h : t.Assigns s args) (h' : t.Assigns s' args')
    (hs : ∀ n ∈ t.names, Expr.IsName n → s n = s' n) :
    t.addressWith apply site args = t.addressWith apply site args' := by
  have hagree : (Context.ofBindings args).AgreeOn (t.segments.flatMap Segment.namesRead)
      (Context.ofBindings args') := by
    refine h.agreeOn h' hs fun n hn => ?_
    obtain ⟨segment, -, hread⟩ := List.mem_flatMap.1 hn
    exact Segment.isName_of_mem_namesRead hread
  rw [addressWith, addressWith, h.query_eq, h'.query_eq, fillWith, fillWith, h.known_eq,
    h'.known_eq, Segment.valuesWith_congr hagree]

/-- A template with a longer string for one of its captures, and no shorter ones, is longer. -/
theorem length_filled_lt (ht : Segment.Alternate t.segments) (hn : n ∈ t.names)
    (hle : ∀ m, (s m).length ≤ (s' m).length) (hlt : (s n).length < (s' n).length) :
    (t.filled (t.names.map s)).length < (t.filled (t.names.map s')).length := by
  have hsaying : ∀ segment : Segment,
      (segment.saying s).length ≤ (segment.saying s').length := by
    rintro (text | text)
    · exact Nat.le_refl _
    · exact hle _
  obtain ⟨segment, hsegment, rfl⟩ := List.mem_map.1 hn
  obtain ⟨hmem, hexpression⟩ := List.mem_filter.1 hsegment
  rw [filled_map_names ht, filled_map_names ht, String.length_join, String.length_join,
    List.map_map, List.map_map]
  refine List.sum_lt_sum _ _ (fun segment _ => hsaying segment) ⟨segment, hmem, ?_⟩
  cases segment with
  | literal text => simp [Segment.isExpression] at hexpression
  | expression text => exact hlt

/-- The address for strings that are not empty is the template with the strings in the place of its
captures, whatever the strings are, exactly if all captures are names. -/
theorem forall_addressWith_eq_filled_iff (source : String) (apply : Application) (site : Site) :
    (∀ s args, (∀ n ∈ (ofString source).names, s n ≠ "") → (ofString source).Assigns s args →
      (ofString source).addressWith apply site args =
        (ofString source).filled ((ofString source).names.map s)) ↔
      ∀ n ∈ (ofString source).names, Expr.IsName n := by
  have ht : Segment.Alternate (ofString source).segments := Segment.alternate_parse source
  constructor
  · intro haddress n hn
    by_contra hname
    -- two strings for the capture, one longer than the other, have the same address
    let s : String → String := fun _ => "a"
    let s' : String → String := fun m => if m = n then "aa" else "a"
    have hlength : "a".length < "aa".length := by decide
    have hs' : ∀ m, s' m ≠ "" ∧ (s m).length ≤ (s' m).length := by
      intro m
      by_cases hm : m = n <;> simp [s, s', hm, hlength.le]
    have hsame : ∀ m ∈ (ofString source).names, Expr.IsName m → s m = s' m := by
      intro m _ hm
      have hmn : m ≠ n := by
        rintro rfl
        exact hname hm
      simp [s, s', hmn]
    have hassigns := assigns_map_names (ofString source) s
    have hassigns' := assigns_map_names (ofString source) s'
    have hlt := length_filled_lt ht hn (fun m => (hs' m).2) (by simp [s, s', hlength])
    rw [← haddress s _ (by simp [s]) hassigns,
      ← haddress s' _ (fun m _ => (hs' m).1) hassigns',
      addressWith_congr hassigns hassigns' hsame] at hlt
    exact Nat.lt_irrefl _ hlt
  · intro hn s args _ h
    exact addressWith_of_assigns ht hn h

/-- The capture is read as a difference of two things that nobody has given. -/
theorem address_hyphenated :
    (ofString "/u/{user-id}").names = ["user-id"] ∧
      (ofString "/u/{user-id}").Assigns (fun _ => "x") [("user-id", .str "x")] ∧
      (ofString "/u/{user-id}").match? "/u/x" = some [("user-id", "x")] ∧
      (ofString "/u/{user-id}").filled ["x"] = "/u/x" ∧
      (ofString "/u/{user-id}").address [] [("user-id", .str "x")] = "/u/" := by
  have hnames : (ofString "/u/{user-id}").names = ["user-id"] := by cbv
  have hassigns : (ofString "/u/{user-id}").Assigns (fun _ => "x") [("user-id", .str "x")] := by
    have h := assigns_map_names (ofString "/u/{user-id}") fun _ => "x"
    rwa [hnames] at h
  have haddress : ∀ apply : Application,
      (ofString "/u/{user-id}").addressWith apply [] [("user-id", .str "x")] = "/u/" := by
    intro apply
    cbv
  exact ⟨hnames, hassigns, by cbv, by cbv, haddress _⟩

end Route.Template

end Stencil
