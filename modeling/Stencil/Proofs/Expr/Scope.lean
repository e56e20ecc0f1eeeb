import Mathlib
import Stencil.Function.Apply

/-!
# What an expression sees of a context

Nothing but what the names in it are bound to: neither what else is bound, nor in which layer, nor
a name of a field or of a keyword argument (`evalWith_eq_of_agreeOn`). So the value of a text
depends on the names in its expressions alone, and a page reaches no more than what it was given
under a name that it writes.
-/

namespace Stencil

namespace Context

variable {names more : List String} {n : String} {ctx ctx' : Context}

/-- Two contexts bind the names to the same values, or leave them unbound alike. -/
def AgreeOn (names : List String) (ctx ctx' : Context) : Prop :=
  ∀ n ∈ names, ctx.get? n = ctx'.get? n

@[simp] theorem agreeOn_singleton : AgreeOn [n] ctx ctx' ↔ ctx.get? n = ctx'.get? n := by
  simp [AgreeOn]

/-- To agree on all names is to agree on these and on those. -/
@[simp] theorem agreeOn_append :
    AgreeOn (names ++ more) ctx ctx' ↔ AgreeOn names ctx ctx' ∧ AgreeOn more ctx ctx' :=
  List.forall_mem_append

/-- A layer makes no difference to names that it does not bind, whatever lies above it and below. -/
theorem agreeOn_insert (before : List (Bindings Value)) {after : List (Bindings Value)}
    {layer : Bindings Value} (h : ∀ n ∈ names, Bindings.get? n layer = none) :
    AgreeOn names ⟨before ++ layer :: after⟩ ⟨before ++ after⟩ := by
  intro n hn
  rw [get?, get?, List.findSome?_append, List.findSome?_append, List.findSome?_cons, h n hn]

end Context

open Context

namespace Expr

mutual

/-- The names in an expression that stand for what a context binds them to. Names of fields and of
keyword arguments stand for themselves. -/
def names : Expr → List String
  | .literal _ => []
  | .name n => [n]
  | .access target _ => names target
  | .index target position => names target ++ names position
  | .call callee positional keywords =>
    names callee ++ (namesOfAll positional ++ namesOfKeywords keywords)
  | .list items => namesOfAll items
  | .unary _ operand => names operand
  | .binary _ left right => names left ++ names right
  | .compare first rest => names first ++ namesOfChain rest
  | .and left right => names left ++ names right
  | .or left right => names left ++ names right
  | .conditional condition consequent alternative =>
    names condition ++ (names consequent ++ names alternative)

/-- The names in expressions in a row. -/
def namesOfAll : List Expr → List String
  | [] => []
  | e :: es => names e ++ namesOfAll es

/-- The names in the values of keyword arguments. -/
def namesOfKeywords : List (String × Expr) → List String
  | [] => []
  | (_, e) :: es => names e ++ namesOfKeywords es

/-- The names in the operands of a chain. -/
def namesOfChain : List (CompareOp × Expr) → List String
  | [] => []
  | (_, e) :: rest => names e ++ namesOfChain rest

end

/-- The names in the expression that a text is written for. -/
def namesIn (text : String) : List String :=
  match parse (Text.trimmed text) with
  | .ok e => e.names
  | .error _ => []

variable {apply : Application} {ctx ctx' : Context} {text : String}

mutual

/-- An expression has the same value, or the same error, where its names are bound alike. -/
theorem evalWith_congr (e : Expr) (h : AgreeOn e.names ctx ctx') (site : Site) :
    evalWith apply ctx site e = evalWith apply ctx' site e := by
  match e with
  | .literal l => rfl
  | .name n =>
    rw [names, agreeOn_singleton] at h
    rw [evalWith, evalWith, h]
  | .access target field =>
    rw [names] at h
    rw [evalWith, evalWith, evalWith_congr target h]
  | .index target position =>
    rw [names, agreeOn_append] at h
    simp only [evalWith, evalWith_congr target h.1, evalWith_congr position h.2]
  | .call callee positional keywords =>
    rw [names, agreeOn_append, agreeOn_append] at h
    simp only [evalWith, evalWith_congr callee h.1, evalAll_congr positional h.2.1,
      evalKeywords_congr keywords h.2.2]
  | .list items =>
    rw [names] at h
    simp only [evalWith, evalAll_congr items h]
  | .unary op operand =>
    rw [names] at h
    rw [evalWith, evalWith, evalWith_congr operand h]
  | .binary op left right =>
    rw [names, agreeOn_append] at h
    simp only [evalWith, evalWith_congr left h.1, evalWith_congr right h.2]
  | .compare first rest =>
    rw [names, agreeOn_append] at h
    simp only [evalWith, evalWith_congr first h.1, evalChain_congr rest h.2]
  | .and left right | .or left right =>
    rw [names, agreeOn_append] at h
    simp only [evalWith, evalWith_congr left h.1, evalWith_congr right h.2]
  | .conditional condition consequent alternative =>
    rw [names, agreeOn_append, agreeOn_append] at h
    simp only [evalWith, evalWith_congr condition h.1, evalWith_congr consequent h.2.1,
      evalWith_congr alternative h.2.2]

/-- Expressions in a row have the same values in contexts that agree on their names. -/
theorem evalAll_congr (es : List Expr) (h : AgreeOn (namesOfAll es) ctx ctx') (site : Site) :
    evalAll apply ctx site es = evalAll apply ctx' site es := by
  match es with
  | [] => rfl
  | e :: es =>
    rw [namesOfAll, agreeOn_append] at h
    simp only [evalAll, evalWith_congr e h.1, evalAll_congr es h.2]

theorem evalKeywords_congr (es : List (String × Expr))
    (h : AgreeOn (namesOfKeywords es) ctx ctx') (site : Site) :
    evalKeywords apply ctx site es = evalKeywords apply ctx' site es := by
  match es with
  | [] => rfl
  | (n, e) :: es =>
    rw [namesOfKeywords, agreeOn_append] at h
    simp only [evalKeywords, evalWith_congr e h.1, evalKeywords_congr es h.2]

theorem evalChain_congr (rest : List (CompareOp × Expr))
    (h : AgreeOn (namesOfChain rest) ctx ctx') (site : Site) (left : Value) :
    evalChain apply ctx site left rest = evalChain apply ctx' site left rest := by
  match rest with
  | [] => rfl
  | (op, e) :: rest =>
    rw [namesOfChain, agreeOn_append] at h
    simp only [evalChain, evalWith_congr e h.1, evalChain_congr rest h.2]

end

/-- A text has the same value in contexts that agree on the names in it. -/
theorem evaluateWith_congr (h : AgreeOn (namesIn text) ctx ctx') (site : Site) :
    evaluateWith apply ctx site text = evaluateWith apply ctx' site text := by
  rw [evaluateWith, evaluateWith]
  cases hp : parse (Text.trimmed text) with
  | error e => rfl
  | ok e =>
    rw [namesIn, hp] at h
    exact evalWith_congr e h site

/-- The same holds where an error is set aside. -/
theorem softlyWith_congr (h : AgreeOn (namesIn text) ctx ctx') (site : Site) :
    softlyWith apply ctx site text = softlyWith apply ctx' site text := by
  rw [softlyWith, softlyWith, evaluateWith_congr h]

end Expr

namespace Segment

variable {apply : Application} {ctx ctx' : Context}

/-- The names in a segment, if it is an expression. -/
def namesRead : Segment → List String
  | literal _ => []
  | expression text => Expr.namesIn text

theorem valueWith_congr {s : Segment} (h : AgreeOn s.namesRead ctx ctx') (site : Site) :
    s.valueWith apply ctx site = s.valueWith apply ctx' site := by
  cases s with
  | literal text => rfl
  | expression text =>
    rw [namesRead] at h
    rw [valueWith, valueWith, Expr.softlyWith_congr h]

theorem valuesWith_congr {segments : List Segment}
    (h : AgreeOn (segments.flatMap namesRead) ctx ctx') (site : Site) :
    valuesWith apply ctx site segments = valuesWith apply ctx' site segments := by
  rw [valuesWith, valuesWith, List.mapIdx_eq_mapIdx_iff]
  intro i hi
  refine valueWith_congr (fun n hn => h n ?_) _
  exact List.mem_flatMap.2 ⟨_, List.getElem_mem hi, hn⟩

/-- The names in the expressions of a text. -/
def namesIn (text : String) : List String := (parse text).flatMap namesRead

end Segment

/-- An expression has the same value or the same error in two contexts that give the same answer for
each name in it; and so a text has the same value in two contexts that do for each name in its
expressions. -/
theorem evalWith_eq_of_agreeOn (apply : Application) (ctx ctx' : Context) :
    (∀ (e : Expr) (site : Site), AgreeOn e.names ctx ctx' →
      e.evalWith apply ctx site = e.evalWith apply ctx' site) ∧
      ∀ (text : String) (site : Site), AgreeOn (Segment.namesIn text) ctx ctx' →
        Segment.interpolateWith apply ctx site text =
          Segment.interpolateWith apply ctx' site text := by
  constructor
  · intro e site h
    exact Expr.evalWith_congr e h site
  · intro text site h
    rw [Segment.interpolateWith, Segment.interpolateWith, Segment.valuesWith_congr h]

/-- A layer in between binds the field and the keyword argument of a call to something else, which
makes no difference; nor does it that the name in the other operand is not bound at all. -/
theorem evalWith_eq_of_layerBetween :
    let m : Value := .record (.given [0]) [("f", .callable (.given [1]) .echo)]
    let ctx : Context := ⟨[[("m", m)], [("f", .null), ("k", .int 2)], [("v", .int 1)]]⟩
    let ctx' : Context := ⟨[[("m", m)], [("v", .int 1)]]⟩
    let e : Expr := .or (.call (.access (.name "m") "f") [] [("k", .name "v")]) (.name "w")
    (ctx.get? "k" ≠ ctx'.get? "k" ∧ AgreeOn e.names ctx ctx' ∧
      e.evalWith Function.apply ctx [] = e.evalWith Function.apply ctx' []) ∧
      AgreeOn (Segment.namesIn "a{m.f(k=v) or w}b") ctx ctx' ∧
        Segment.interpolate ctx [] "a{m.f(k=v) or w}b" =
          Segment.interpolate ctx' [] "a{m.f(k=v) or w}b" := by
  intro m ctx ctx' e
  have hread : Segment.namesIn "a{m.f(k=v) or w}b" = e.names := by cbv
  have hagree : AgreeOn e.names ctx ctx' := agreeOn_insert [[("m", m)]] (by decide)
  have htext : AgreeOn (Segment.namesIn "a{m.f(k=v) or w}b") ctx ctx' := hread ▸ hagree
  have hk : ctx.get? "k" ≠ ctx'.get? "k" := by simp [ctx, ctx', get?]
  obtain ⟨heval, hinterpolate⟩ := evalWith_eq_of_agreeOn Function.apply ctx ctx'
  exact ⟨⟨hk, hagree, heval e [] hagree⟩, htext, hinterpolate _ [] htext⟩

end Stencil
