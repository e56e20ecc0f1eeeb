import Stencil.Document.Html
import Stencil.Markup.Event

/-!
# Building documents

A document is built from events. Elements are open from their start tag to their end tag; what is
met goes inside the innermost open one. An end tag closes the nearest open element of its name with
everything opened inside, and nothing if there is none.
-/

namespace Stencil.Markup

/-- A document under construction, with the open elements, the innermost first. -/
structure Builder where
  document : Document
  opened : List Nat

namespace Builder

/-- Nothing is built yet. -/
def start : Builder := ⟨.empty, []⟩

/-- Where things go at the moment. -/
def current (b : Builder) : Nat := b.opened.headD Document.root

/-- The open elements without the nearest of a name and those inside it. -/
def close (d : Document) (name : String) (opened : List Nat) : List Nat :=
  match opened.dropWhile fun n => d.tag? n != some name with
  | [] => opened
  | _ :: rest => rest

/-- Takes in an event. -/
def step (b : Builder) : Event → Builder
  | .text content => { b with document := b.document.appendText b.current content }
  | .start tag =>
    let (d, n) := b.document.add (.element tag.name [])
    let d := tag.attributes.foldl (fun d (name, value) => d.setAttribute n name value) d
    let d := d.append b.current n
    ⟨d, if !tag.selfClosing && !isVoid tag.name then n :: b.opened else b.opened⟩
  | .finish name =>
    if isVoid name then b else { b with opened := close b.document name b.opened }

/-- Takes in events in order. -/
def run (b : Builder) (events : List Event) : Builder := events.foldl step b

end Builder

/-- The document of a page. -/
def parse (source : String) : Except Fault Document := do
  return (Builder.start.run (← events source)).document

end Stencil.Markup
