import Stencil.Markup.Builder
import Stencil.Store.FileSystem

/-!
# Stored templates

Templates are read from files and kept, each with the time of the last change of its file. A kept
document is used as long as that time stays the same; otherwise the file is read again and the new
document takes the place of the old one. A failed read changes nothing.
-/

namespace Stencil

/-- Why a page cannot be made. -/
inductive TemplateError where
  | notFound (path : String) (e : FileError)
  | unreadable (path : String) (e : FileError)
  | invalidName (name : String)
  | includeDepth (path : String)
  | badMarkup (fault : Markup.Fault)
deriving DecidableEq, Repr

/-- The error in words. -/
def TemplateError.message : TemplateError → String
  | notFound path e => "template not found: " ++ path ++ " (" ++ e.message ++ ")"
  | unreadable path e => "failed to read template " ++ path ++ ": " ++ e.message
  | invalidName name => "invalid template name '" ++ name ++ "'"
  | includeDepth path => "include depth exceeded in " ++ path
  | badMarkup _ => "markup cannot be read"

/-- The error of the file that is behind the error. -/
def TemplateError.cause? : TemplateError → Option FileError
  | notFound _ e | unreadable _ e => some e
  | _ => none

/-- A document that was read, numbered in order of reading, so that two documents of the same
content can be told apart. -/
structure Loaded where
  number : Nat
  document : Document

/-- A kept document and the time of its file. -/
structure CacheEntry where
  modified : Option Int
  loaded : Loaded

/-- Kept documents by path. -/
abbrev Cache := List (Path × CacheEntry)

/-- The files, the kept documents, and how many documents were read so far. -/
structure Store where
  files : FileSystem
  cache : Cache
  count : Nat

namespace Store

/-- A store that keeps nothing yet. -/
def ofFiles (files : FileSystem) : Store := ⟨files, [], 0⟩

/-- The kept document of a path, if it is still good at a time. -/
def fresh? (s : Store) (path : Path) (modified : Option Int) : Option Loaded :=
  match s.cache.lookup path with
  | some entry => if entry.modified = modified then some entry.loaded else none
  | none => none

/-- Keeps a new document under a path. -/
def keep (s : Store) (path : Path) (modified : Option Int) (d : Document) : Store :=
  { s with
    cache := (path, ⟨modified, ⟨s.count, d⟩⟩) :: s.cache.filter fun (p, _) => p ≠ path
    count := s.count + 1 }

/-- The document that a path leads to. -/
def load (s : Store) (written : String) : Store × Except TemplateError Loaded :=
  match s.files.modified? written with
  | .error e => (s, .error (.unreadable written e))
  | .ok modified =>
    match s.fresh? (Path.ofString written) modified with
    | some loaded => (s, .ok loaded)
    | none =>
      match s.files.read written with
      | .error e => (s, .error (.unreadable written e))
      | .ok text =>
        match Markup.parse (Text.trimmed text) with
        | .error fault => (s, .error (.badMarkup fault))
        | .ok d => (s.keep (Path.ofString written) modified d, .ok ⟨s.count, d⟩)

/-- The ending of template files. -/
def ending : String := ".html"

/-- The plain path and the document of a template in a directory. -/
def resolveIn (s : Store) (directory name : String) :
    Store × Except TemplateError (String × Loaded) :=
  if Text.trimmed name = "" then (s, .error (.invalidName name))
  else
    let written := Path.join directory (name ++ ending)
    match s.files.canonical written with
    | .error e => (s, .error (.notFound written e))
    | .ok path =>
      match s.load path.toString with
      | (s, .ok loaded) => (s, .ok (path.toString, loaded))
      | (s, .error e) => (s, .error e)

/-- The plain path and the document of a template in the directory of another one. -/
def resolve (s : Store) (source name : String) : Store × Except TemplateError (String × Loaded) :=
  s.resolveIn (Path.directory source) name

/-- The path that a kept document is dropped under: where the written path leads, or the path
itself if it leads nowhere. -/
def key (s : Store) (written : String) : Path :=
  match s.files.canonical written with
  | .ok path => path
  | .error _ => Path.ofString written

/-- Whether a document is kept under the path as it is written. -/
def contains (s : Store) (written : String) : Bool :=
  (s.cache.lookup (Path.ofString written)).isSome

/-- Drops the document kept for a path, and tells whether there was one. -/
def invalidate (s : Store) (written : String) : Store × Bool :=
  let path := s.key written
  ({ s with cache := s.cache.filter fun (p, _) => p ≠ path }, (s.cache.lookup path).isSome)

/-- Drops all kept documents. -/
def clear (s : Store) : Store := { s with cache := [] }

end Store

end Stencil
