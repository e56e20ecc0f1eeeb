import Stencil.Command.Run
import Stencil.Proofs.Expr.Site
import Stencil.Proofs.Text.Occurrence

/-!
# Asking for addresses

A template asks for the address of a route by calling `url`, and a command by naming the route. Both
come to the same address for the same strings (`apply_url_agrees`), but the function takes the
keyword `route` for a parameter of its own and never passes it on
(`apply_url_ne_of_keyword_route`).
-/

namespace Stencil

open Value

namespace Route

variable {f : Identity → Identity} {s t : Site}

namespace Template

variable {template : Template} {args : Bindings Value}

/-- The address for data is the same where the objects in it are renamed, since it is a text. -/
theorem addressWith_rename (apply apply' : Application) (hargs : ∀ a ∈ args, a.2.IsData)
    (h : Shifts f s t) :
    template.addressWith apply' t (args.map (Prod.map id (rename f))) =
      template.addressWith apply s args := by
  have hctx : (Context.ofBindings (template.known args)).IsData :=
    Context.isData_ofBindings fun b hb => hargs b (List.mem_of_mem_filter hb)
  have hknown : template.known (args.map (Prod.map id (rename f))) =
      (template.known args).map (Prod.map id (rename f)) := by
    simp [known, List.filter_map, Function.comp_def]
  have hextra : template.extra (args.map (Prod.map id (rename f))) =
      (template.extra args).map (Prod.map id (rename f)) := by
    simp [extra, List.filter_map, Function.comp_def]
  rw [addressWith, addressWith, fillWith, fillWith, hknown, Context.ofBindings_rename,
    Segment.valuesWith_rename apply apply' hctx h, join_rename, text_rename, query, query, hextra]
  simp [Function.comp_def]

end Template

/-- Strings are data and no objects, and so the address for strings depends neither on where it is
made nor on what calls would yield. -/
theorem addressWith?_strings (apply apply' : Application) (site : Site) (routes : List Route)
    (name : String) (args : List (String × String)) :
    addressWith? apply' site routes name (args.map (Prod.map id str)) =
      addressWith? apply [] routes name (args.map (Prod.map id str)) := by
  have hdata : ∀ a ∈ args.map (Prod.map id str), a.2.IsData := by
    intro a ha
    obtain ⟨b, -, rfl⟩ := List.mem_map.1 ha
    exact isData_str b.2
  have hfixed : (args.map (Prod.map id str)).map (Prod.map id (rename (Identity.below site))) =
      args.map (Prod.map id str) := by
    rw [List.map_map]
    rfl
  have hmoved (template : Template) :=
    template.addressWith_rename apply apply' hdata (shifts_below site)
  rw [hfixed] at hmoved
  simp only [addressWith?, hmoved]

end Route

namespace Command

/-- A parameter as it is written on the command line. -/
def assignment (parameter : String × String) : String := parameter.1 ++ "=" ++ parameter.2

/-- What is written is read, if the name can be told from the value. -/
theorem readParameter_assignment {parameter : String × String} (hname : parameter.1 ≠ "")
    (hequals : '=' ∉ parameter.1.toList) :
    readParameter (assignment parameter) = .ok (Prod.map id str parameter) := by
  obtain ⟨name, value⟩ := parameter
  have hsplit : Text.splitAtFirst? ['='] (assignment (name, value)).toList =
      some (name.toList, value.toList) :=
    Text.splitAtFirst?_eq_some_iff.2
      ⟨by simp [assignment], Text.firstBehind_singleton.2 hequals⟩
  rw [readParameter, hsplit]
  cases hcs : name.toList with
  | nil => exact absurd (String.toList_eq_nil_iff.1 hcs) hname
  | cons c cs => simp [← hcs]

theorem mapM_readParameter {parameters : List (String × String)}
    (h : ∀ p ∈ parameters, p.1 ≠ "" ∧ '=' ∉ p.1.toList) :
    (parameters.map assignment).mapM readParameter = .ok (parameters.map (Prod.map id str)) := by
  induction parameters with
  | nil => rfl
  | cons p ps ih =>
    obtain ⟨⟨hname, hequals⟩, hps⟩ := List.forall_mem_cons.1 h
    rw [List.map_cons, List.mapM_cons, readParameter_assignment hname hequals, ih hps]
    rfl

theorem runWith_url {files : FileSystem} {path : String} {routes : List Route}
    {parameters : List String} {args : Bindings Value} (nested : Application)
    (environment : Environment) (hroutes : loadRoutes files path = .ok routes)
    (hparameters : parameters.mapM readParameter = .ok args) (name : String) :
    runWith nested files environment (.url path name parameters) =
      match Route.addressWith? nested [] routes name args with
      | some address => .ok (address ++ "\n")
      | none => .error (.unknownRoute name) := by
  rw [runWith, hroutes, hparameters]
  simp only [bind, Except.bind]
  cases Route.addressWith? nested [] routes name args <;> rfl

end Command

namespace Expr

/-- A call of `url` with a route and with strings for its captures. -/
def urlCall (name : String) (parameters : List (String × String)) : Expr :=
  .call (.name "url") [.literal (.str name)] (parameters.map fun (n, v) => (n, .literal (.str v)))

theorem evalKeywords_strings (apply : Application) (ctx : Context) (site : Site)
    (parameters : List (String × String)) :
    evalKeywords apply ctx site (parameters.map fun (n, v) => (n, .literal (.str v))) =
      .ok (parameters.map (Prod.map id str)) := by
  induction parameters generalizing site with
  | nil => rfl
  | cons p ps ih =>
    rw [List.map_cons, evalKeywords, ih]
    rfl

theorem evalWith_urlCall (apply : Application) {ctx : Context} {i : Identity} {routes : List Route}
    (h : ctx.get? "url" = some (.callable i (.url routes))) (site : Site) (name : String)
    (parameters : List (String × String)) :
    evalWith apply ctx site (urlCall name parameters) =
      apply (.url routes) (3 :: site) ⟨[str name], parameters.map (Prod.map id str)⟩ := by
  rw [urlCall, evalWith, evalWith, h, evalKeywords_strings]
  rfl

end Expr

namespace Function

/-- What calling `url` with a route yields: its address, or the absent value if it is not known. -/
theorem applyWith_url (nested : Application) (routes : List Route) (site : Site) (name : String)
    (keywords : Bindings Value) :
    applyWith nested (.url routes) site ⟨[str name], keywords⟩ =
      .ok (((Route.addressWith? nested site routes name
        (keywords.filter (·.1 != "route"))).map str).getD null) := by
  have hurl : applyUrl routes nested site ⟨[str name], keywords⟩ =
      match Route.addressWith? nested site routes name (keywords.filter (·.1 != "route")) with
      | some address => .ok (str address)
      | none => .ok null := rfl
  rw [applyWith, hurl]
  cases Route.addressWith? nested site routes name (keywords.filter (·.1 != "route")) <;> rfl

/-- The function yields the address of the route for the keywords, other than `route`, and the
absent value if there is no such route. So a call of it in a template, with strings for its
keywords, yields the address that a command with the same parameters writes, and the absent value if
the command fails for want of the route. All of this is so whatever calls inside routes yield. -/
theorem apply_url_agrees (nested : Application) (routes : List Route) (name : String) :
    (∀ (site : Site) (keywords : Bindings Value),
      applyWith nested (.url routes) site ⟨[str name], keywords⟩ =
        .ok (((Route.addressWith? nested site routes name
          (keywords.filter (·.1 != "route"))).map str).getD null)) ∧
    ∀ (files : FileSystem) (environment : Environment) (path : String),
      Command.loadRoutes files path = .ok routes →
      ∀ parameters : List (String × String),
        (∀ p ∈ parameters, p.1 ≠ "" ∧ '=' ∉ p.1.toList ∧ p.1 ≠ "route") →
      ∀ (ctx : Context) (site : Site) (i : Identity),
        ctx.get? "url" = some (.callable i (.url routes)) →
      ∃ address : Option String,
        Expr.evalWith (applyWith nested) ctx site (Expr.urlCall name parameters) =
          .ok ((address.map str).getD null) ∧
        Command.runWith nested files environment
            (.url path name (parameters.map Command.assignment)) =
          match address with
          | some address => .ok (address ++ "\n")
          | none => .error (.unknownRoute name) := by
  refine ⟨fun site keywords => applyWith_url nested routes site name keywords, ?_⟩
  intro files environment path hroutes parameters hparameters ctx site i hctx
  have hwritten : (parameters.map Command.assignment).mapM Command.readParameter =
      .ok (parameters.map (Prod.map id str)) :=
    Command.mapM_readParameter fun p hp => ⟨(hparameters p hp).1, (hparameters p hp).2.1⟩
  have hkept : (parameters.map (Prod.map id str)).filter (·.1 != "route") =
      parameters.map (Prod.map id str) := by
    refine List.filter_eq_self.2 fun a ha => ?_
    obtain ⟨p, hp, rfl⟩ := List.mem_map.1 ha
    simpa using (hparameters p hp).2.2
  refine ⟨Route.addressWith? nested [] routes name (parameters.map (Prod.map id str)), ?_, ?_⟩
  · rw [Expr.evalWith_urlCall _ hctx, applyWith_url, hkept, Route.addressWith?_strings nested]
  · exact Command.runWith_url nested environment hroutes hwritten name

/-- A capture is given twice, and a further parameter goes into the query string. -/
theorem apply_url_agrees_of_page :
    let ctx := (Renderer.mk "" [⟨"a", "/{k}"⟩] "%c").rootContext Request.none
    let parameters := [("k", "7"), ("q", "a b"), ("k", "8")]
    Command.loadRoutes ⟨[(["r"], .file "[[a, '/{k}']]".toUTF8 0)]⟩ "r" = .ok [⟨"a", "/{k}"⟩] ∧
      (∀ p ∈ parameters, p.1 ≠ "" ∧ '=' ∉ p.1.toList ∧ p.1 ≠ "route") ∧
      ctx.get? "url" = some (.callable (.standard "url") (.url [⟨"a", "/{k}"⟩])) ∧
      ∃ address : Option String,
        Expr.evalWith Function.apply ctx [] (Expr.urlCall "a" parameters) =
          .ok ((address.map str).getD null) ∧
        Command.run ⟨[(["r"], .file "[[a, '/{k}']]".toUTF8 0)]⟩ (fun _ => none)
            (.url "r" "a" (parameters.map Command.assignment)) =
          match address with
          | some address => .ok (address ++ "\n")
          | none => .error (.unknownRoute "a") := by
  intro ctx parameters
  have hroutes : Command.loadRoutes ⟨[(["r"], .file "[[a, '/{k}']]".toUTF8 0)]⟩ "r" =
      .ok [⟨"a", "/{k}"⟩] := by cbv
  have hparameters : ∀ p ∈ parameters, p.1 ≠ "" ∧ '=' ∉ p.1.toList ∧ p.1 ≠ "route" := by
    simp [parameters]
  have hctx : ctx.get? "url" =
      some (.callable (.standard "url") (.url [⟨"a", "/{k}"⟩])) := by cbv
  exact ⟨hroutes, hparameters, hctx,
    (apply_url_agrees applyNested [⟨"a", "/{k}"⟩] "a").2 _ _ "r" hroutes parameters hparameters
      ctx [] _ hctx⟩

/-- The route has a capture of that name, which the keyword of the call does not fill. -/
theorem apply_url_ne_of_keyword_route :
    ¬ ∀ (routes : List Route) (site : Site) (name : String) (keywords : Bindings Value),
      apply (.url routes) site ⟨[str name], keywords⟩ =
        .ok (((Route.address? site routes name keywords).map str).getD null) := by
  intro h
  have hcall := h [⟨"article", "/article/{route}"⟩] [] "article" [("route", str "x")]
  have hwith : Route.address? [] [⟨"article", "/article/{route}"⟩] "article"
      [("route", str "x")] = some "/article/x" := by
    rw [Route.address?]
    generalize applyNested = nested
    cbv
  have hwithout : Route.address? [] [⟨"article", "/article/{route}"⟩] "article" [] =
      some "/article/" := by
    rw [Route.address?]
    generalize applyNested = nested
    cbv
  rw [apply, applyWith_url, ← Route.address?, hwith] at hcall
  have hnone : [("route", str "x")].filter (·.1 != "route") = [] := by decide
  rw [hnone, hwithout] at hcall
  simp at hcall

end Function

end Stencil
