import Stencil.Page.Render
import Stencil.Proofs.Page.Refinement

/-!
# What a page is

A page is the written form of what its template stands for (`renderIn_spec`), whatever the store
kept before. Making it does nothing to the store but look for names.
-/

namespace Stencil

open Page (meaning libraryOf)

variable {s s' : Store}

/-- Stores with the same answers have the same library. -/
theorem Store.SameAnswers.libraryOf_eq (h : s.SameAnswers s') : libraryOf s' = libraryOf s := by
  funext source name
  rw [libraryOf, libraryOf, h.documentIn_eq]

namespace Renderer

/-- What a template of a directory becomes, by what a store answers for it. -/
def pageOf (apply : Application) (r : Renderer) (s : Store) (name : String) (context : Context) :
    Except TemplateError String := do
  let (source, d) ← s.documentIn r.directory name
  let ts ← meaning apply (libraryOf s) source context d.trees
  return Tree.pageHtml (Tree.allOnto [] ts)

variable {apply : Application} {r : Renderer} {name : String} {context : Context}

theorem pageOf_congr (h : s.SameAnswers s') :
    r.pageOf apply s' name context = r.pageOf apply s name context := by
  rw [pageOf, pageOf, h.documentIn_eq, h.libraryOf_eq]

/-- Making a page only looks for names, and yields the written form of what the template stands
for. -/
theorem renderIn_spec (apply : Application) (r : Renderer) (s : Store) (name : String)
    (context : Context) :
    s.Resolves (r.renderIn apply s name context).1 ∧
      (r.renderIn apply s name context).2 = r.pageOf apply s name context := by
  have hread := Store.Resolves.refl.resolveIn (s := s) r.directory name
  unfold renderIn pageOf Store.documentIn
  generalize s.resolveIn r.directory name = result at hread
  obtain ⟨s₁, e | ⟨source, loaded⟩⟩ := result
  · exact ⟨hread, rfl⟩
  · obtain ⟨⟨s₂, out⟩, hrun, hready, -, hbelow⟩ :=
      Page.writes_expandWith (s := s) (p := Document.root) apply source context
        loaded.document.trees ⟨s₁, .empty⟩ ⟨hread, .empty, Document.WellFormed.empty.root_lt_size, rfl⟩
    simp only [hrun, Except.map, bind, Except.bind]
    cases hm : meaning apply (libraryOf s) source context loaded.document.trees with
    | error e => exact ⟨hready.reads, rfl⟩
    | ok ts =>
      refine ⟨hready.reads, ?_⟩
      show Except.ok out.html = .ok _
      rw [hready.wellFormed.html_eq, hbelow ts hm]
      rfl

theorem render_resolves (apply : Application) (r : Renderer) (s : Store) (name : String)
    (request : Request) (bindings : Bindings Value) :
    s.Resolves (r.renderWith apply s name request bindings).1 :=
  (r.renderIn_spec apply s name _).1

theorem render_reads (apply : Application) (r : Renderer) (s : Store) (name : String)
    (request : Request) (bindings : Bindings Value) :
    s.Reads (r.renderWith apply s name request bindings).1 :=
  (r.render_resolves apply s name request bindings).reads

/-- Stores with the same answers make the same pages. -/
theorem render_congr (h : s.SameAnswers s') (apply : Application) (r : Renderer) (name : String)
    (request : Request) (bindings : Bindings Value) :
    (r.renderWith apply s' name request bindings).2 =
      (r.renderWith apply s name request bindings).2 := by
  rw [renderWith, renderWith, (r.renderIn_spec apply s' name _).2,
    (r.renderIn_spec apply s name _).2, pageOf_congr h]

end Renderer

end Stencil
