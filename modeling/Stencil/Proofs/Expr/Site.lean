import Stencil.Interpolation
import Stencil.Proofs.Value.Data
import Stencil.Proofs.Value.Renaming

/-!
# Where an expression is evaluated

The site of an evaluation goes into the identities of the objects that it makes, and into nothing
else. If the objects of a context are renamed, and so that what is made at one site is renamed to
what is made at another one (`Shifts`), then an expression has the renamed value there. Where names
are bound to data there is nothing to call, so this is so whatever calls would yield at the one site
and at the other (`evalWith_rename`).
-/

namespace Stencil

/-- The renaming moves what is made at a site to another site, and keeps different objects
different. -/
structure Shifts (f : Identity → Identity) (s t : Site) : Prop where
  injective : Function.Injective f
  made (u : Site) : f (.made (u ++ s)) = .made (u ++ t)

variable {f : Identity → Identity} {s t : Site}

namespace Shifts

/-- Sites that are matched stay matched one step further inside. -/
theorem cons (h : Shifts f s t) (i : Nat) : Shifts f (i :: s) (i :: t) :=
  ⟨h.injective, fun u => by simpa using h.made (u ++ [i])⟩

/-- What is made at the one site is matched with what is made at the other. -/
theorem here (h : Shifts f s t) : f (.made s) = .made t := h.made []

end Shifts

/-- The identity with the site below another one, if evaluation made the object. -/
def Identity.below (t : Site) : Identity → Identity
  | made u => made (u ++ t)
  | given place => given place
  | standard name => standard name

/-- Putting everything below a site matches each site with the one below it. -/
theorem shifts_below (t : Site) : Shifts (Identity.below t) [] t where
  injective := by
    intro i j h
    cases i <;> cases j <;> simp_all [Identity.below]
  made u := by simp [Identity.below]

namespace Context

/-- The context with other identities for the objects in it. -/
def rename (f : Identity → Identity) (ctx : Context) : Context :=
  ⟨ctx.layers.map fun layer => layer.map (Prod.map id (Value.rename f))⟩

/-- Where the objects of a context have other identities, names are bound as before, up to that. -/
theorem get?_rename (ctx : Context) (name : String) :
    (ctx.rename f).get? name = (ctx.get? name).map (Value.rename f) := by
  obtain ⟨layers⟩ := ctx
  simp only [get?, rename]
  induction layers with
  | nil => rfl
  | cons layer layers ih =>
    rw [List.map_cons, List.findSome?_cons, List.findSome?_cons, Bindings.get?_map, ih]
    cases Bindings.get? name layer <;> rfl

theorem ofBindings_rename (bindings : Bindings Value) :
    ofBindings (bindings.map (Prod.map id (Value.rename f))) = (ofBindings bindings).rename f := by
  cases bindings <;> rfl

end Context

/-! ## Two evaluations -/

/-- The second computation yields what the first one yields, changed by a function, and this has a
property before it is changed. -/
structure Follows {ε α : Type} (P : α → Prop) (g : α → α) (x x' : Except ε α) : Prop where
  eq : x' = x.map g
  yields : Yields P x

namespace Follows

variable {ε α β : Type} {P : α → Prop} {Q : β → Prop} {g : α → α} {g' : β → β}
  {x x' : Except ε α}

/-- A result that has the property follows itself. -/
theorem ok {a : α} (h : P a) : Follows P g (.ok a : Except ε α) (.ok (g a)) := ⟨rfl, h⟩

/-- A failure follows itself. -/
theorem error (e : ε) : Follows P g (.error e) (.error e) := ⟨rfl, trivial⟩

/-- Steps that follow each other, one after the other, follow each other as a whole. -/
theorem bind {k k' : α → Except ε β} (h : Follows P g x x')
    (hk : ∀ a, P a → Follows Q g' (k a) (k' (g a))) : Follows Q g' (x >>= k) (x' >>= k') := by
  obtain ⟨rfl, hyields⟩ := h
  cases x with
  | error e => exact .error e
  | ok a => exact hk a hyields

end Follows

variable {ctx : Context} (apply apply' : Application)

namespace Expr

open Value

mutual

/-- Where the objects of a context of data are renamed, an expression has the renamed value, or the
same error. -/
theorem follows_evalWith (hctx : ctx.IsData) {s t : Site} (h : Shifts f s t) (e : Expr) :
    Follows IsData (rename f) (evalWith apply ctx s e) (evalWith apply' (ctx.rename f) t e) := by
  match e with
  | .literal l =>
    have hfixed : l.value.rename f = l.value := by cases l <;> rfl
    exact ⟨congrArg Except.ok hfixed.symm, isData_literal l⟩
  | .name n =>
    rw [evalWith, evalWith, Context.get?_rename]
    cases hn : ctx.get? n with
    | none => exact .error _
    | some v => exact .ok (hctx n v hn)
  | .access target field =>
    rw [evalWith, evalWith]
    exact (follows_evalWith hctx (h.cons 0) target).bind fun v hv =>
      ⟨access_rename v field, yields_access hv field⟩
  | .index target position =>
    rw [evalWith, evalWith]
    exact (follows_evalWith hctx (h.cons 0) target).bind fun v hv =>
      (follows_evalWith hctx (h.cons 1) position).bind fun i _ =>
        ⟨subscript_rename v i, yields_subscript hv i⟩
  | .call callee positional keywords =>
    -- data cannot be called, so neither of the two applications is asked
    rw [evalWith, evalWith]
    refine (follows_evalWith hctx (h.cons 0) callee).bind fun v hv => ?_
    cases v with
    | callable id g => exact absurd hv not_isData_callable
    | _ => exact .error _
  | .list items =>
    rw [evalWith, evalWith]
    refine (follows_evalAll hctx (h.cons 0) items).bind fun vs hvs => ?_
    exact ⟨congrArg Except.ok (by simp [h.here]), isData_list hvs⟩
  | .unary op operand =>
    rw [evalWith, evalWith]
    exact (follows_evalWith hctx (h.cons 0) operand).bind fun v _ =>
      ⟨unary_rename op v, yields_unary op v⟩
  | .binary op left right =>
    rw [evalWith, evalWith]
    exact (follows_evalWith hctx (h.cons 0) left).bind fun l hl =>
      (follows_evalWith hctx (h.cons 1) right).bind fun r hr =>
        ⟨binary_rename h.here op l r, yields_binary hl hr s op⟩
  | .compare first rest =>
    rw [evalWith, evalWith]
    refine (follows_evalWith hctx (h.cons 0) first).bind fun v _ => ?_
    rw [evalChain_rename hctx (h.cons 1) v rest]
    cases evalChain apply ctx (1 :: s) v rest with
    | error e => exact .error e
    | ok b => exact .ok (isData_bool b)
  | .and left right =>
    rw [evalWith, evalWith]
    refine (follows_evalWith hctx (h.cons 0) left).bind fun l hl => ?_
    rw [truthy_rename]
    split
    · exact follows_evalWith hctx (h.cons 1) right
    · exact .ok hl
  | .or left right =>
    rw [evalWith, evalWith]
    refine (follows_evalWith hctx (h.cons 0) left).bind fun l hl => ?_
    rw [truthy_rename]
    split
    · exact .ok hl
    · exact follows_evalWith hctx (h.cons 1) right
  | .conditional condition consequent alternative =>
    rw [evalWith, evalWith]
    refine (follows_evalWith hctx (h.cons 0) condition).bind fun c _ => ?_
    rw [truthy_rename]
    split
    · exact follows_evalWith hctx (h.cons 1) consequent
    · exact follows_evalWith hctx (h.cons 2) alternative

/-- Expressions in a row have values that follow each other if their sites do. -/
theorem follows_evalAll (hctx : ctx.IsData) {s t : Site} (h : Shifts f s t) (es : List Expr) :
    Follows (∀ v ∈ ·, IsData v) (List.map (rename f)) (evalAll apply ctx s es)
      (evalAll apply' (ctx.rename f) t es) := by
  match es with
  | [] => exact .ok fun _ hv => absurd hv List.not_mem_nil
  | e :: es =>
    rw [evalAll, evalAll]
    refine (follows_evalWith hctx (h.cons 0) e).bind fun v hv =>
      (follows_evalAll hctx (h.cons 1) es).bind fun vs hvs => .ok ?_
    exact List.forall_mem_cons.2 ⟨hv, hvs⟩

/-- Whether a chain of comparisons holds is the same. -/
theorem evalChain_rename (hctx : ctx.IsData) {s t : Site} (h : Shifts f s t) (left : Value)
    (rest : List (CompareOp × Expr)) :
    evalChain apply' (ctx.rename f) t (left.rename f) rest = evalChain apply ctx s left rest := by
  match rest with
  | [] => rfl
  | (op, e) :: rest =>
    rw [evalChain, evalChain, (follows_evalWith hctx (h.cons 0) e).eq]
    cases evalWith apply ctx (0 :: s) e with
    | error e => rfl
    | ok right =>
      change (compares op (left.rename f) (right.rename f) >>= _) = (compares op left right >>= _)
      rw [compares_rename h.injective]
      simp only [evalChain_rename hctx (h.cons 1) right rest]

end

/-- Where the objects of a context of data are renamed, an expression has the renamed value,
whatever calls would yield. -/
theorem evalWith_rename (hctx : ctx.IsData) (h : Shifts f s t) (e : Expr) :
    evalWith apply' (ctx.rename f) t e = (evalWith apply ctx s e).map (rename f) :=
  (follows_evalWith apply apply' hctx h e).eq

/-- The value of a text follows that of the same text elsewhere. -/
theorem evaluateWith_rename (hctx : ctx.IsData) (h : Shifts f s t) (text : String) :
    evaluateWith apply' (ctx.rename f) t text = (evaluateWith apply ctx s text).map (rename f) := by
  rw [evaluateWith, evaluateWith]
  split
  · rfl
  · exact evalWith_rename apply apply' hctx h _

end Expr

namespace Segment

theorem valueWith_rename (hctx : ctx.IsData) (h : Shifts f s t) (segment : Segment) :
    segment.valueWith apply' (ctx.rename f) t = (segment.valueWith apply ctx s).rename f := by
  cases segment with
  | literal text => rfl
  | expression text =>
    simp only [valueWith, Expr.softlyWith, Expr.evaluateWith_rename apply apply' hctx h]
    cases Expr.evaluateWith apply ctx s text <;> rfl

/-- The values of segments in a row follow those of the same segments elsewhere. -/
theorem valuesWith_rename (hctx : ctx.IsData) (h : Shifts f s t) (segments : List Segment) :
    valuesWith apply' (ctx.rename f) t segments =
      (valuesWith apply ctx s segments).map (Value.rename f) := by
  apply List.ext_getElem
  · simp [valuesWith]
  · intro i hi hi'
    simp only [valuesWith, List.getElem_map, List.getElem_mapIdx]
    exact valueWith_rename apply apply' hctx (h.cons i) _

end Segment

end Stencil
