import Stencil.Route.Template
import Stencil.Yaml.Reader

/-!
# Route files

A route file is a list of records with a `name` and a `path`, in the order in which paths are
matched. Other entries of a record do not count. A record may also be a list of the two texts.
-/

namespace Stencil.Route

/-- The text of a scalar or of what stands for one. -/
def textIn? (document : Yaml.Document) (node : Yaml) : Option String :=
  (document.target node).text?

/-- The text of the only entry with the given key. -/
def onlyText? (document : Yaml.Document) (name : String) (entries : List (Yaml × Yaml)) :
    Option String :=
  match entries.filter fun (key, _) => textIn? document key == some name with
  | [(_, value)] => textIn? document value
  | _ => none

/-- The route that a record declares. All keys have to be scalars. -/
def ofYaml? (document : Yaml.Document) (node : Yaml) : Option Route :=
  match document.target node with
  | .mapping entries =>
    if entries.all fun (key, _) => (textIn? document key).isSome then do
      return ⟨← onlyText? document "name" entries, ← onlyText? document "path" entries⟩
    else none
  | .sequence [name, path] => do return ⟨← textIn? document name, ← textIn? document path⟩
  | _ => none

/-- The routes that a document declares; none if nothing is written in it. -/
def listOfYaml? (document : Yaml.Document) : Option (List Route) :=
  match document.root with
  | .sequence items => items.mapM (ofYaml? document)
  | .scalar "" true => some []
  | _ => none

/-- The routes that the text of a route file declares. -/
def parseFile? (text : String) : Option (List Route) := (Yaml.parse? text).bind listOfYaml?

end Stencil.Route
