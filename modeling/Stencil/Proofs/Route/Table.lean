import Stencil.Proofs.Route.Strip

/-!
# Tables of routes

The first route that a path matches is the one that counts (`hit?_eq_some_iff`), and slashes at the
end of the path or of the routes make no difference (`hit?_append_slashes`). So the address of a
route for strings is found again (`hit?_addressWith?`): by the route itself with the same strings,
unless a route before it matches the address, too.
-/

namespace Stencil.Route

open Template (ofString)

variable {routes routes' : List Route} {r r' : Route} {path : String} {hit : Hit} {n : Nat}

/-- What a route finds in a path, where slashes at the end do not count. -/
def params? (r : Route) (path : String) : Option (Bindings String) :=
  (ofString (strip r.path)).match? (strip path)

theorem hit?_eq_findSome? :
    hit? routes path = routes.findSome? fun r => (params? r path).map fun ps => ⟨r.name, ps⟩ :=
  rfl

/-- The first route that a path matches is found. -/
theorem hit?_eq_some_iff :
    hit? routes path = some hit ↔ ∃ before r after, routes = before ++ r :: after ∧
      r.name = hit.name ∧ params? r path = some hit.params ∧
        ∀ q ∈ before, params? q path = none := by
  simp only [hit?_eq_findSome?, List.findSome?_eq_some_iff, Option.map_eq_some_iff,
    Option.map_eq_none_iff]
  constructor
  · rintro ⟨before, r, after, rfl, ⟨ps, hps, rfl⟩, hbefore⟩
    exact ⟨before, r, after, rfl, rfl, hps, hbefore⟩
  · rintro ⟨before, r, after, rfl, hname, hps, hbefore⟩
    exact ⟨before, r, after, rfl, ⟨hit.params, hps, by rw [hname]⟩, hbefore⟩

theorem hit?_eq_none_iff : hit? routes path = none ↔ ∀ r ∈ routes, params? r path = none := by
  simp [hit?_eq_findSome?]

/-! ## Slashes at the end -/

/-- The second route is the first one with slashes behind its path. -/
structure WithSlashes (r r' : Route) : Prop where
  name_eq : r'.name = r.name
  path_eq : ∃ n, r'.path = r.path ++ slashes n

theorem WithSlashes.params?_eq (h : WithSlashes r r') (path : String) (n : Nat) :
    params? r' (path ++ slashes n) = params? r path := by
  obtain ⟨m, hm⟩ := h.path_eq
  rw [params?, params?, hm, strip_append_slashes, strip_append_slashes]

theorem hit?_append_slashes (h : List.Forall₂ WithSlashes routes routes') (path : String)
    (n : Nat) :
    hit? routes' (path ++ slashes n) = hit? routes path := by
  simp only [hit?_eq_findSome?]
  induction h with
  | nil => rw [List.findSome?_nil, List.findSome?_nil]
  | @cons r r' routes routes' hr _ ih =>
    rw [List.findSome?_cons, List.findSome?_cons, ih]
    simp only [hr.params?_eq path n, hr.name_eq]

/-! ## Addresses of routes -/

/-- A path that a route matches is found, if not by the route then by one before it. -/
theorem exists_hit? (before after : List Route) {ps : Bindings String}
    (h : params? r path = some ps) :
    ∃ hit, hit? (before ++ r :: after) path = some hit ∧
      (r.name = hit.name ∧ hit.params = ps ∨
        ∃ q ∈ before, q.name = hit.name ∧ params? q path = some hit.params) := by
  induction before with
  | nil =>
    refine ⟨⟨r.name, ps⟩, ?_, .inl ⟨rfl, rfl⟩⟩
    rw [List.nil_append, hit?_eq_findSome?, List.findSome?_cons, h]
    rfl
  | cons q before ih =>
    rw [List.cons_append, hit?_eq_findSome?, List.findSome?_cons]
    cases hq : params? q path with
    | some qs => exact ⟨⟨q.name, qs⟩, rfl, .inr ⟨q, List.mem_cons_self, rfl, hq⟩⟩
    | none =>
      obtain ⟨hit, hhit, hfrom⟩ := ih
      refine ⟨hit, hhit, hfrom.imp_right ?_⟩
      rintro ⟨q', hq', hfound⟩
      exact ⟨q', List.mem_cons_of_mem q hq', hfound⟩

/-- The first route of a name is the one whose address is asked for. -/
theorem named?_eq_some {before after : List Route} (h : ∀ q ∈ before, q.name ≠ r.name) :
    named? (before ++ r :: after) r.name = some r := by
  rw [named?, List.find?_append, List.find?_eq_none.2 (by simpa using h), Option.none_or,
    List.find?_cons_of_pos (by simp)]

variable {s : String → String} {args : Bindings Value}

/-- A route finds strings in its address for them if they can be told apart in the path without
slashes at its end, and if that path ends in no slash once they are filled in. -/
theorem params?_addressWith (apply : Application) (site : Site)
    (hc : (ofString r.path).captures ≠ [])
    (hn : ∀ k ∈ (ofString r.path).names, Expr.IsName k) (hs : (ofString r.path).Assigns s args)
    (hg : strip ((ofString (strip r.path)).filled ((ofString r.path).names.map s)) =
      (ofString (strip r.path)).filled ((ofString r.path).names.map s))
    (hfits : ∀ c ∈ (ofString (strip r.path)).captures, c.Fits (s c.name).toList) :
    params? r ((ofString r.path).addressWith apply site args) =
      some ((ofString r.path).names.map fun k => (k, s k)) := by
  obtain ⟨hnames, n, hfilled⟩ := Template.exists_filled_eq_strip (s := s) hc hn
  have hcaptures : (ofString (strip r.path)).captures ≠ [] := by
    intro he
    rw [Template.names_eq, Template.names_eq, he, List.map_nil] at hnames
    exact hc (List.map_eq_nil_iff.1 hnames)
  rw [params?, Template.addressWith_of_assigns (Segment.alternate_parse _) hn hs, hfilled,
    strip_append_slashes, hg, hnames]
  exact (Template.match?_filled_iff (Segment.alternate_parse _) hcaptures).2 hfits

/-- Let a route be the first of its name, its captures be names and at least one, and `g` be its
path without slashes at the end, with strings in the place of the captures. If no slash is at the
end of `g` and the text behind each capture first occurs right behind its string, then the address of the
route for the strings, given as arguments in any order, is a path that is found: by a route before,
or by the route itself, and then with the very strings. What is found of a path is always what the
first route finds that matches it, without slashes at the end of either; and slashes at the end of
the path or of any of the routes change nothing. -/
theorem hit?_addressWith? (routes : List Route) (apply : Application) (site : Site) :
    (∀ before r after, routes = before ++ r :: after → (∀ q ∈ before, q.name ≠ r.name) →
      (ofString r.path).captures ≠ [] → (∀ k ∈ (ofString r.path).names, Expr.IsName k) →
      ∀ s args, (ofString r.path).Assigns s args →
      ∀ g, g = (ofString (strip r.path)).filled ((ofString (strip r.path)).names.map s) →
      strip g = g → (∀ c ∈ (ofString (strip r.path)).captures, c.Fits (s c.name).toList) →
      ∃ address hit, addressWith? apply site routes r.name args = some address ∧
        hit? routes address = some hit ∧
        (hit.name = r.name ∧ hit.params = (ofString r.path).names.map (fun k => (k, s k)) ∨
          hit.name ≠ r.name ∧
            ∃ q ∈ before, q.name = hit.name ∧ params? q address = some hit.params)) ∧
      (∀ path hit, hit? routes path = some hit ↔
        ∃ before r after, routes = before ++ r :: after ∧ r.name = hit.name ∧
          (ofString (strip r.path)).match? (strip path) = some hit.params ∧
          ∀ q ∈ before, (ofString (strip q.path)).match? (strip path) = none) ∧
      (∀ path, hit? routes path = none ↔
        ∀ r ∈ routes, (ofString (strip r.path)).match? (strip path) = none) ∧
      ∀ routes' path n, List.Forall₂ WithSlashes routes routes' →
        hit? routes' (path ++ slashes n) = hit? routes path := by
  refine ⟨?_, fun path hit => hit?_eq_some_iff, fun path => hit?_eq_none_iff,
    fun routes' path n h => hit?_append_slashes h path n⟩
  rintro before r after rfl hfirst hc hn s args hs g rfl hg hfits
  have hnames := (Template.exists_filled_eq_strip (s := s) hc hn).1
  rw [← hnames] at hg
  have hfound := params?_addressWith apply site hc hn hs hg hfits
  obtain ⟨hit, hhit, hfrom⟩ := exists_hit? before after hfound
  refine ⟨_, hit, by rw [addressWith?, named?_eq_some hfirst]; rfl, hhit, ?_⟩
  rcases hfrom with ⟨hname, hparams⟩ | ⟨q, hq, hname, hparams⟩
  · exact .inl ⟨hname.symm, hparams⟩
  · exact .inr ⟨hname ▸ hfirst q hq, q, hq, hname, hparams⟩

/-- Two slashes are behind the capture, and the string ends in none, though there is one inside. -/
theorem hit?_addressWith?_of_slashes :
    ∃ address,
      address? [] [⟨"post", "/post/{n}//"⟩, ⟨"home", "/"⟩] "post" [("n", .str "x/y")] =
          some address ∧
        hit? [⟨"post", "/post/{n}//"⟩, ⟨"home", "/"⟩] address =
          some ⟨"post", [("n", "x/y")]⟩ := by
  have hnames : (ofString "/post/{n}//").names = ["n"] := by cbv
  have hcaptures : (ofString "/post/{n}//").captures = [⟨"n", "//"⟩] := by cbv
  have hstrip : strip "/post/{n}//" = "/post/{n}" := by decide
  have hc : (ofString "/post/{n}//").captures ≠ [] := by
    rw [hcaptures]
    exact List.cons_ne_nil _ _
  have hn : ∀ k ∈ (ofString "/post/{n}//").names, Expr.IsName k := by
    rw [hnames]
    intro k hk
    obtain rfl := List.mem_singleton.1 hk
    exact ⟨⟨'n', [], by decide, by decide, by simp⟩, by decide⟩
  have hs : (ofString "/post/{n}//").Assigns (fun _ => "x/y") [("n", .str "x/y")] := by
    constructor <;> simp [hnames]
  have hfilled : (ofString (strip "/post/{n}//")).filled
      ((ofString (strip "/post/{n}//")).names.map fun _ => "x/y") = "/post/x/y" := by
    rw [hstrip]
    cbv
  have hg : strip "/post/x/y" = "/post/x/y" := by decide
  have hfits : ∀ c ∈ (ofString (strip "/post/{n}//")).captures, c.Fits "x/y".toList := by
    have hcaptures : (ofString "/post/{n}").captures = [⟨"n", ""⟩] := by cbv
    rw [hstrip, hcaptures]
    decide
  obtain ⟨address, hit, haddress, hhit, hfrom⟩ :=
    (hit?_addressWith? [⟨"post", "/post/{n}//"⟩, ⟨"home", "/"⟩] Function.applyNested []).1 []
      ⟨"post", "/post/{n}//"⟩ [⟨"home", "/"⟩] rfl (by simp) hc hn (fun _ => "x/y")
      [("n", .str "x/y")] hs "/post/x/y" hfilled.symm hg hfits
  refine ⟨address, haddress, hhit.trans ?_⟩
  rcases hfrom with ⟨hname, hparams⟩ | ⟨-, q, hq, -⟩
  · rw [hnames] at hparams
    obtain ⟨name, params⟩ := hit
    obtain rfl := hname
    obtain rfl := hparams
    rfl
  · simp at hq

end Stencil.Route
