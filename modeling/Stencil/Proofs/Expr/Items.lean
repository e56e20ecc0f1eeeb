import Stencil.Proofs.Expr.Reading

/-!
# Reading items

The items of a list and the arguments of a call end at a closing mark, which may stand right behind
a comma. No item begins with a closing mark, and none that is given by place begins like one that is
given by name, so that one look ahead tells what comes.
-/

namespace Stencil.Expr

open Stencil.Expr.Parser

variable {item : Reader Expr} {phrase : Phrase Expr} {stop : Nat} {keyworded : Bool} {e : Expr}
  {es : List Expr} {args : Arguments} {ks : List Token.Kind} {t : Token} {ts us r : List Token}

/-! ## Lists -/

/-- At its closing bracket a list has no more items. -/
theorem yields_listItems_close (ht : t.kind = .mark .rightBracket) :
    Yields (listItems stop item (t :: ts)) es r ↔ [] = es ∧ ts = r := by
  obtain ⟨_, position⟩ := t
  cases ht
  rw [listItems, yields_ok]

/-- Otherwise an item comes next, and then a comma with more items or the closing bracket. -/
theorem yields_listItems_item (hne : ∀ t ∈ ts.head?, t.kind ≠ .mark .rightBracket) :
    Yields (listItems stop item ts) es r ↔
      ∃ e r₁, Yields (item ts) e r₁ ∧
        ((∃ t r₂, r₁ = t :: r₂ ∧ t.kind = .mark .comma ∧
          ∃ more, Yields (listItems stop item r₂) more r ∧ e :: more = es) ∨
        ∃ t r₂, r₁ = t :: r₂ ∧ t.kind = .mark .rightBracket ∧ [e] = es ∧ r₂ = r) := by
  rw [listItems]
  · exact yields_bind_iff fun e r₁ _ => yields_separator
      (fun r₂ _ => yields_bind_map (e :: ·) fun _ _ _ => ⟨_, rfl⟩) (fun _ _ => yields_ok) (by simp)
  · rintro position ts rfl
    exact hne _ rfl rfl

/-- The items that are read are derived from the tokens in front of the bracket. -/
theorem Items.of_yields_listItems (hi : Reads 7 item phrase)
    (h : Yields (listItems stop item ts) es r) :
    ∃ us t, ts = us ++ t :: r ∧ t.kind = .mark .rightBracket ∧ Items phrase (words us) es := by
  induction hn : ts.length using Nat.strongRecOn generalizing ts es with
  | ind n ih =>
    by_cases hclose : ∃ t ∈ ts.head?, t.kind = .mark .rightBracket
    · obtain ⟨t, ht, hk⟩ := hclose
      obtain ⟨ts, rfl⟩ := List.head?_eq_some_iff.1 ht
      obtain ⟨rfl, rfl⟩ := (yields_listItems_close hk).1 h
      exact ⟨[], t, rfl, hk, .nil⟩
    · have hne : ∀ t ∈ ts.head?, t.kind ≠ .mark .rightBracket :=
        fun t ht hk => hclose ⟨t, ht, hk⟩
      obtain ⟨e, r₁, he, hrest⟩ := (yields_listItems_item hne).1 h
      obtain ⟨us, rfl, he'⟩ := hi.sound he
      rcases hrest with ⟨t, r₂, rfl, hk, more, hmore, rfl⟩ | ⟨t, r₂, rfl, hk, rfl, rfl⟩
      · have hlt : r₂.length < n := by
          simp only [List.length_append, List.length_cons] at hn
          omega
        obtain ⟨vs, t', rfl, hk', hitems⟩ := ih _ hlt hmore rfl
        refine ⟨us ++ t :: vs, t', by simp, hk', ?_⟩
        rw [words_append, words_cons, hk]
        exact .cons he' hitems
      · exact ⟨us, t, rfl, hk, .last he'⟩

/-- Items that are derived from tokens are read from them. -/
theorem Items.yields_listItems (hi : Reads 7 item phrase) (hb : Begins opens phrase)
    (h : Items phrase ks es) (hw : words us = ks) (ht : t.kind = .mark .rightBracket) :
    Yields (listItems stop item (us ++ t :: r)) es r := by
  have hstop : ∀ {u : Token} {us : List Token}, u.kind = .mark .comma ∨
      u.kind = .mark .rightBracket → Stops 7 (u :: us) := by
    rintro u us (hu | hu) <;> simp [hu, Token.Kind.rank]
  have hbracket : ¬ opens (.mark .rightBracket) := by simp [opens, opensOperand, opensAtom]
  induction h generalizing us with
  | nil =>
    obtain rfl := List.map_eq_nil_iff.1 hw
    exact (yields_listItems_close ht).2 ⟨rfl, rfl⟩
  | last he =>
    subst hw
    refine (yields_listItems_item (hb.ne he hbracket)).2 ?_
    exact ⟨_, _, hi.complete he (hstop (.inr ht)), .inr ⟨t, r, rfl, ht, rfl, rfl⟩⟩
  | cons he hitems ih =>
    obtain ⟨us, vs, rfl, rfl, hv⟩ := List.map_eq_append_iff.1 hw
    obtain ⟨position, ws, rfl, hws⟩ := exists_of_words_eq_cons hv
    rw [List.append_assoc]
    refine (yields_listItems_item (hb.ne he hbracket)).2 ?_
    exact ⟨_, _, hi.complete he (hstop (.inl rfl)), .inl ⟨_, _, rfl, rfl, _, ih hws, rfl⟩⟩

/-! ## Arguments -/

/-- Arguments in order. -/
def Parser.Arguments.all (args : Arguments) : List (Expr ⊕ String × Expr) :=
  args.positional.map .inl ++ args.keywords.map .inr

/-- Arguments behind another one. -/
def Parser.Arguments.behind (args : Arguments) : Expr ⊕ String × Expr → Arguments
  | .inl e => { args with positional := e :: args.positional }
  | .inr (n, e) => { args with keywords := (n, e) :: args.keywords }

variable {a : Expr ⊕ String × Expr} {as : List (Expr ⊕ String × Expr)}

/-- In the order of the grammar the new argument comes first. -/
theorem all_behind (h : a.isRight → args.positional = []) :
    (args.behind a).all = a :: args.all := by
  rcases a with e | ⟨n, e⟩
  · rfl
  · simp [Arguments.all, Arguments.behind, h rfl]

/-- An argument by name adds none by place. -/
theorem positional_behind (h : a.isRight) : (args.behind a).positional = args.positional := by
  rcases a with e | ⟨n, e⟩
  · simp at h
  · rfl

theorem isRight_of_positional_behind (h : (args.behind a).positional = []) : a.isRight := by
  rcases a with e | ⟨n, e⟩
  · simp [Arguments.behind] at h
  · rfl

theorem eq_of_all_eq_nil (h : args.all = []) : args = ⟨[], []⟩ := by
  obtain ⟨positional, keywords⟩ := args
  simpa [Arguments.all] using h

/-- Arguments in order are one behind the other, and none by place is behind one by name. -/
theorem exists_behind (h : args.all = a :: as) : ∃ more : Arguments,
    more.behind a = args ∧ more.all = as ∧ (a.isRight → more.positional = []) := by
  obtain ⟨_ | ⟨e, positional⟩, keywords⟩ := args
  · obtain _ | ⟨⟨n, e⟩, keywords⟩ := keywords
    · simp [Arguments.all] at h
    · obtain ⟨rfl, rfl⟩ := List.cons.inj h
      exact ⟨⟨[], keywords⟩, rfl, rfl, fun _ => rfl⟩
  · obtain ⟨rfl, rfl⟩ := List.cons.inj h
    exact ⟨⟨positional, keywords⟩, rfl, rfl, fun h => by simp at h⟩

/-- A keyword is a name with a single equality sign behind it. -/
theorem keyword?_eq_some {n : String} {hr : r.length < ts.length} :
    keyword? ts = some (n, ⟨r, hr⟩) ↔
      ∃ p p', ts = ⟨.name n, p⟩ :: ⟨.mark .assign, p'⟩ :: r := by
  constructor
  · intro h
    unfold keyword? at h
    split at h
    · cases h
      exact ⟨_, _, rfl⟩
    · simp at h
  · rintro ⟨p, p', rfl⟩
    rfl

/-- At its closing parenthesis a call has no more arguments. -/
theorem yields_callArguments_close (ht : t.kind = .mark .rightParen) :
    Yields (callArguments stop item keyworded (t :: ts)) args r ↔ ⟨[], []⟩ = args ∧ ts = r := by
  obtain ⟨_, position⟩ := t
  cases ht
  rw [callArguments, yields_ok]

/-- One argument is read off the front of tokens. -/
def YieldsArgument (item : Reader Expr) (keyworded : Bool) (ts : List Token) :
    Expr ⊕ String × Expr → List Token → Prop
  | .inl e, r => keyworded = false ∧ keyword? ts = none ∧ Yields (item ts) e r
  | .inr (n, e), r => ∃ p p' s, ts = ⟨.name n, p⟩ :: ⟨.mark .assign, p'⟩ :: s ∧ Yields (item s) e r

/-- Behind an argument there are more, or the end. -/
def YieldsBehind (stop : Nat) (item : Reader Expr) (a : Expr ⊕ String × Expr) (ts : List Token)
    (args : Arguments) (r : List Token) : Prop :=
  (∃ t s, ts = t :: s ∧ t.kind = .mark .comma ∧
    ∃ more, Yields (callArguments stop item a.isRight s) more r ∧ more.behind a = args) ∨
  ∃ t s, ts = t :: s ∧ t.kind = .mark .rightParen ∧ Arguments.behind ⟨[], []⟩ a = args ∧ s = r

/-- A keyword begins an argument by name. -/
theorem yields_callArguments_keyword {n : String} {p p' : Nat} :
    Yields (callArguments stop item keyworded
        (⟨.name n, p⟩ :: ⟨.mark .assign, p'⟩ :: ts)) args r ↔
      ∃ e r₁, Yields (item ts) e r₁ ∧ YieldsBehind stop item (.inr (n, e)) r₁ args r := by
  rw [callArguments]
  · exact yields_bind_iff fun e r₁ _ => yields_separator
      (fun _ _ => yields_bind_map (Arguments.behind · (.inr (n, e))) fun _ _ _ => ⟨_, rfl⟩)
      (fun _ _ => yields_ok) (by simp)
  · simp

/-- Anything else begins an argument by place, unless there were arguments by name before. -/
theorem yields_callArguments_positional (hne : ∀ t ∈ ts.head?, t.kind ≠ .mark .rightParen)
    (hk : keyword? ts = none) :
    Yields (callArguments stop item keyworded ts) args r ↔
      keyworded = false ∧ ∃ e r₁, Yields (item ts) e r₁ ∧
        YieldsBehind stop item (.inl e) r₁ args r := by
  rw [callArguments]
  · rw [hk]
    cases keyworded with
    | true => simp [not_yields_error]
    | false =>
      refine Iff.trans ?_ (and_iff_right rfl).symm
      exact yields_bind_iff fun e r₁ _ => yields_separator
        (fun _ _ => yields_bind_map (Arguments.behind · (.inl e)) fun _ _ _ => ⟨_, rfl⟩)
        (fun _ _ => yields_ok) (by simp)
  · rintro position ts rfl
    exact hne _ rfl rfl

/-- Either way an argument is read, and then what is behind it. -/
theorem yields_callArguments_argument (hne : ∀ t ∈ ts.head?, t.kind ≠ .mark .rightParen) :
    Yields (callArguments stop item keyworded ts) args r ↔
      ∃ a r₁, YieldsArgument item keyworded ts a r₁ ∧ YieldsBehind stop item a r₁ args r := by
  cases hk : keyword? ts with
  | none =>
    rw [yields_callArguments_positional hne hk]
    constructor
    · rintro ⟨hkey, e, r₁, he, hrest⟩
      exact ⟨.inl e, r₁, ⟨hkey, hk, he⟩, hrest⟩
    · rintro ⟨e | ⟨n, e⟩, r₁, ha, hrest⟩
      · obtain ⟨hkey, -, he⟩ := ha
        exact ⟨hkey, e, r₁, he, hrest⟩
      · obtain ⟨p, p', s, rfl, -⟩ := ha
        simp [keyword?] at hk
  | some y =>
    obtain ⟨n, s, hs⟩ := y
    obtain ⟨p, p', rfl⟩ := keyword?_eq_some.1 hk
    rw [yields_callArguments_keyword]
    constructor
    · rintro ⟨e, r₁, he, hrest⟩
      exact ⟨.inr (n, e), r₁, ⟨p, p', s, rfl, he⟩, hrest⟩
    · rintro ⟨e | ⟨n', e⟩, r₁, ha, hrest⟩
      · simp [YieldsArgument, hk] at ha
      · obtain ⟨_, _, _, hs, he⟩ := ha
        cases hs
        exact ⟨e, r₁, he, hrest⟩

/-- The argument that is read is derived from its tokens. -/
theorem Argument.of_yields (hi : Reads 7 item phrase)
    (h : YieldsArgument item keyworded ts a r) :
    ∃ us, ts = us ++ r ∧ Argument phrase (words us) a ∧ (keyworded → a.isRight) := by
  rcases a with e | ⟨n, e⟩
  · obtain ⟨rfl, -, he⟩ := h
    obtain ⟨us, rfl, he'⟩ := hi.sound he
    exact ⟨us, rfl, .positional he', by simp⟩
  · obtain ⟨p, p', s, rfl, he⟩ := h
    obtain ⟨us, rfl, he'⟩ := hi.sound he
    exact ⟨_ :: _ :: us, rfl, .keyword n he', fun _ => rfl⟩

/-- Where an argument by place is read, the look ahead finds no name for it: the name alone would be
read as an expression, and `=` does not go on with that. -/
theorem Argument.yields (hi : Reads 7 item phrase) (hname : ∀ n, phrase [.name n] (.name n))
    (h : Argument phrase (words us) a) (hk : keyworded → a.isRight)
    (ht : t.kind = .mark .comma ∨ t.kind = .mark .rightParen) :
    YieldsArgument item keyworded (us ++ t :: r) a (t :: r) := by
  have hstop : Stops 7 (t :: r) := by
    rcases ht with ht | ht <;> simp [ht, Token.Kind.rank]
  generalize hw : words us = ks at h
  cases h with
  | positional he =>
    subst hw
    have hread := hi.complete he hstop
    refine ⟨by simpa using hk, ?_, hread⟩
    cases hk : keyword? (us ++ t :: r) with
    | none => rfl
    | some y =>
      obtain ⟨n, s, hs⟩ := y
      obtain ⟨p, p', hus⟩ := keyword?_eq_some.1 hk
      have hassign : Stops 7 (⟨.mark .assign, p'⟩ :: s) := by simp [Token.Kind.rank]
      have hother : Yields (item ([⟨.name n, p⟩] ++ ⟨.mark .assign, p'⟩ :: s)) (.name n) _ :=
        hi.complete (hname n) hassign
      rw [hus] at hread
      obtain ⟨-, heq⟩ := hread.unique hother
      obtain ⟨rfl, -⟩ := List.cons.inj heq
      simp at ht
  | keyword n he =>
    obtain ⟨p, vs, rfl, hvs⟩ := exists_of_words_eq_cons hw
    obtain ⟨p', ws, rfl, rfl⟩ := exists_of_words_eq_cons hvs
    exact ⟨p, p', ws ++ t :: r, rfl, hi.complete he hstop⟩

/-- The arguments that are read are derived from the tokens in front of the parenthesis, those by
place before those by name. -/
theorem Items.of_yields_callArguments (hi : Reads 7 item phrase)
    (h : Yields (callArguments stop item keyworded ts) args r) :
    ∃ us t, ts = us ++ t :: r ∧ t.kind = .mark .rightParen ∧
      Items (Argument phrase) (words us) args.all ∧ (keyworded → args.positional = []) := by
  induction hn : ts.length using Nat.strongRecOn generalizing ts args keyworded with
  | ind n ih =>
    by_cases hclose : ∃ t ∈ ts.head?, t.kind = .mark .rightParen
    · obtain ⟨t, ht, hk⟩ := hclose
      obtain ⟨ts, rfl⟩ := List.head?_eq_some_iff.1 ht
      obtain ⟨rfl, rfl⟩ := (yields_callArguments_close hk).1 h
      exact ⟨[], t, rfl, hk, .nil, fun _ => rfl⟩
    · have hne : ∀ t ∈ ts.head?, t.kind ≠ .mark .rightParen :=
        fun t ht hk => hclose ⟨t, ht, hk⟩
      obtain ⟨a, r₁, ha, hrest⟩ := (yields_callArguments_argument hne).1 h
      obtain ⟨us, rfl, ha', hkey⟩ := Argument.of_yields hi ha
      rcases hrest with ⟨t, r₂, rfl, hk, more, hmore, rfl⟩ | ⟨t, r₂, rfl, hk, rfl, rfl⟩
      · have hlt : r₂.length < n := by
          simp only [List.length_append, List.length_cons] at hn
          omega
        obtain ⟨vs, t', rfl, hk', hitems, hpos⟩ := ih _ hlt hmore rfl
        refine ⟨us ++ t :: vs, t', by simp, hk', ?_, fun hkw => ?_⟩
        · rw [words_append, words_cons, hk, all_behind hpos]
          exact .cons ha' hitems
        · rw [positional_behind (hkey hkw), hpos (hkey hkw)]
      · refine ⟨us, t, rfl, hk, ?_, fun hkw => positional_behind (hkey hkw)⟩
        rw [all_behind fun _ => rfl]
        exact .last ha'

/-- Arguments that are derived from tokens, those by place first, are read from them. -/
theorem Items.yields_callArguments (hi : Reads 7 item phrase) (hb : Begins opens phrase)
    (hname : ∀ n, phrase [.name n] (.name n)) (h : Items (Argument phrase) ks as)
    (hall : args.all = as) (hkey : keyworded → args.positional = []) (hw : words us = ks)
    (ht : t.kind = .mark .rightParen) :
    Yields (callArguments stop item keyworded (us ++ t :: r)) args r := by
  have hparen : ¬ opens (.mark .rightParen) := by simp [opens, opensOperand, opensAtom]
  induction h generalizing us args keyworded with
  | nil =>
    obtain rfl := List.map_eq_nil_iff.1 hw
    obtain rfl := eq_of_all_eq_nil hall
    exact (yields_callArguments_close ht).2 ⟨rfl, rfl⟩
  | last ha =>
    subst hw
    obtain ⟨more, rfl, hmore, -⟩ := exists_behind hall
    obtain rfl := eq_of_all_eq_nil hmore
    refine (yields_callArguments_argument (hb.argument.ne ha hparen)).2 ?_
    have hread := ha.yields hi hname (fun hk => isRight_of_positional_behind (hkey hk))
      (r := r) (.inr ht)
    exact ⟨_, _, hread, .inr ⟨t, r, rfl, ht, rfl, rfl⟩⟩
  | cons ha hitems ih =>
    obtain ⟨us, vs, rfl, rfl, hv⟩ := List.map_eq_append_iff.1 hw
    obtain ⟨position, ws, rfl, hws⟩ := exists_of_words_eq_cons hv
    obtain ⟨more, rfl, hmore, hpos⟩ := exists_behind hall
    rw [List.append_assoc]
    refine (yields_callArguments_argument (hb.argument.ne ha hparen)).2 ?_
    have hread := ha.yields hi hname (fun hk => isRight_of_positional_behind (hkey hk))
      (t := ⟨.mark .comma, position⟩) (r := ws ++ t :: r) (.inl rfl)
    exact ⟨_, _, hread, .inl ⟨_, _, rfl, rfl, more, ih hmore hpos hws, rfl⟩⟩

end Stencil.Expr
