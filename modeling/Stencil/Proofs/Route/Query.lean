import Stencil.Proofs.Expr.Scope
import Stencil.Proofs.Form
import Stencil.Proofs.Route.Address

/-!
# What arguments do to an address

Arguments that are not absent either name a capture or do not. The former make up the path, where of
several for one name the last one counts; the latter make up the query string, all of them and in
their order. Neither part depends on anything else, and nothing of the latter is lost
(`addressWith_eq_path_append_query`).
-/

namespace Stencil

theorem Bindings.get?_filter {α : Type} (p : String → Bool) (bs : Bindings α) (n : String) :
    get? n (bs.filter fun b => p b.1) = if p n then get? n bs else none := by
  induction bs with
  | nil => simp
  | cons b bs ih =>
    rw [List.filter_cons]
    split
    · next hb =>
      rw [get?_cons, get?_cons, ih]
      split
      · rfl
      · next hn =>
        have hne : b.1 ≠ n := by
          rintro rfl
          exact hn hb
        rw [if_neg hne, Option.none_or]
    · next hb =>
      rw [ih, get?_cons]
      split
      · next hn =>
        have hne : b.1 ≠ n := by
          rintro rfl
          exact hb hn
        rw [if_neg hne, Option.or_none]
      · rfl

namespace Route.Template

variable {t : Template} {args args' : Bindings Value} {apply : Application} {site : Site}

/-- The arguments that are not absent. -/
def given (args : Bindings Value) : Bindings Value := args.filter fun b => !b.2.isNull

theorem known_eq_filter_given (t : Template) (args : Bindings Value) :
    t.known args = (given args).filter fun b => t.names.contains b.1 := by
  rw [given, List.filter_filter]
  exact List.filter_congr fun b _ => Bool.and_comm ..

theorem extra_eq_filter_given (t : Template) (args : Bindings Value) :
    t.extra args = (given args).filter fun b => !t.names.contains b.1 := by
  rw [given, List.filter_filter]
  exact List.filter_congr fun b _ => Bool.and_comm ..

/-- What is given is known or extra, and is not both. -/
theorem partition_given (t : Template) (args : Bindings Value) :
    (given args).partition (fun b => t.names.contains b.1) = (t.known args, t.extra args) := by
  rw [List.partition_eq_filter_filter, known_eq_filter_given, extra_eq_filter_given]
  rfl

/-- Known arguments are known. -/
theorem known_known (t : Template) (args : Bindings Value) :
    t.known (t.known args) = t.known args :=
  List.filter_eq_self.2 fun _ hb => (List.mem_filter.1 hb).2

/-- No known argument is extra. -/
theorem extra_known (t : Template) (args : Bindings Value) : t.extra (t.known args) = [] := by
  refine List.filter_eq_nil_iff.2 fun b hb => ?_
  obtain ⟨-, hname⟩ := Bool.and_eq_true_iff.1 (List.mem_filter.1 hb).2
  simp [List.contains_iff_mem.1 hname]

theorem addressWith_known (t : Template) (args : Bindings Value) :
    t.addressWith apply site (t.known args) = t.fillWith apply site args := by
  rw [addressWith, fillWith, known_known, query, extra_known]
  exact String.append_empty

/-- The path depends on the last argument of each capture only. -/
theorem fillWith_congr
    (h : ∀ n ∈ t.names, Bindings.get? n (given args) = Bindings.get? n (given args')) :
    t.fillWith apply site args = t.fillWith apply site args' := by
  have hget : ∀ n, (Context.ofBindings (t.known args)).get? n =
      (Context.ofBindings (t.known args')).get? n := by
    intro n
    simp only [Context.ofBindings, Context.get?_extend, known_eq_filter_given,
      Bindings.get?_filter t.names.contains]
    by_cases hn : n ∈ t.names
    · rw [h n hn]
    · simp [hn]
  rw [fillWith, fillWith, Segment.valuesWith_congr fun n _ => hget n]

/-- What is said of the extra arguments in a query string. -/
def said (args : Bindings Value) : List (String × String) := args.map fun b => (b.1, b.2.text)

/-- An address is the address for the known arguments and, if there are any, a question mark and the
extra ones as a form, from which these are read again. The address for the known arguments depends
on nothing but the last argument that is given for each capture. -/
theorem addressWith_eq_path_append_query (t : Template) (apply : Application) (site : Site)
    (args : Bindings Value) :
    (given args).partition (fun b => t.names.contains b.1) = (t.known args, t.extra args) ∧
      t.addressWith apply site args = t.addressWith apply site (t.known args) ++
        (if t.extra args = [] then "" else "?" ++ Form.encode (said (t.extra args))) ∧
      Form.decode? (Form.encode (said (t.extra args))) = some (said (t.extra args)) ∧
      ∀ args', (∀ n ∈ t.names, Bindings.get? n (given args) = Bindings.get? n (given args')) →
        t.addressWith apply site (t.known args) = t.addressWith apply site (t.known args') := by
  refine ⟨t.partition_given args, ?_, Form.decode?_encode _, fun args' h => ?_⟩
  · rw [addressWith_known, addressWith, query]
    simp only [List.isEmpty_iff]
    rfl
  · rw [addressWith_known, addressWith_known, fillWith_congr h]

/-- An argument for the capture that comes too early, one that is absent, and two of one name that
is none of a capture. The path is that for the other argument of the capture alone. -/
theorem addressWith_eq_path_append_query_of_mixed :
    let t := ofString "/u/{a}"
    let args : Bindings Value := [("q", .str "a b&c"), ("a", .int 1), ("n", .null), ("a", .str "x"),
      ("q", .str "é=+%")]
    (∀ n ∈ t.names, Bindings.get? n (given args) = Bindings.get? n (given [("a", .str "x")])) ∧
      t.extra args = [("q", .str "a b&c"), ("q", .str "é=+%")] ∧
      t.address [] (t.known args) = t.address [] (t.known [("a", .str "x")]) ∧
      t.address [] args = "/u/x?q=a+b%26c&q=%C3%A9%3D%2B%25" ∧
      Form.decode? "q=a+b%26c&q=%C3%A9%3D%2B%25" = some [("q", "a b&c"), ("q", "é=+%")] := by
  intro t args
  have hextra : t.extra args = [("q", .str "a b&c"), ("q", .str "é=+%")] := by cbv
  have hnames : t.names = ["a"] := by cbv
  have hlast : ∀ n ∈ t.names,
      Bindings.get? n (given args) = Bindings.get? n (given [("a", .str "x")]) := by
    rw [hnames]
    intro n hn
    obtain rfl := List.mem_singleton.1 hn
    rfl
  have hencode : Form.encode (said (t.extra args)) = "q=a+b%26c&q=%C3%A9%3D%2B%25" := by
    rw [hextra]
    decide +kernel
  obtain ⟨-, haddress, hdecode, hpath⟩ := addressWith_eq_path_append_query t
    Function.applyNested [] args
  have hx : ∀ apply : Application, t.addressWith apply [] (t.known [("a", .str "x")]) = "/u/x" := by
    intro apply
    cbv
  rw [hencode, hextra] at haddress hdecode
  refine ⟨hlast, hextra, hpath _ hlast, haddress.trans ?_, hdecode⟩
  rw [hpath _ hlast, hx]
  rfl

end Route.Template

end Stencil
