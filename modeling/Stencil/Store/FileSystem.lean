import Stencil.Store.Path

/-!
# Files

The files and directories below a working directory, as a value. A path is followed part by part;
every part but the last must be a directory.

The working directory never changes, and what is outside of it is not known. There are no links from
one place to another, so that a place has one plain path, and nothing is ever refused for want of
permission. Only files have a time of their last change: a directory is never read as a document,
and its time would be looked at for nothing else.
-/

namespace Stencil

/-- Why a file cannot be had. -/
inductive FileError where
  | missing
  | notDirectory
  | isDirectory
  | nameTooLong
  /-- The content is no UTF-8 text. -/
  | notText
  /-- The path holds a null character. -/
  | nullCharacter
deriving DecidableEq, Repr

/-- The error in words. -/
def FileError.message : FileError → String
  | missing => "No such file or directory (os error 2)"
  | notDirectory => "Not a directory (os error 20)"
  | isDirectory => "Is a directory (os error 21)"
  | nameTooLong => "File name too long (os error 36)"
  | notText => "stream did not contain valid UTF-8"
  | nullCharacter => "file name contained an unexpected NUL byte"

/-- A directory, or a file with its content and the time of its last change. -/
inductive FileSystem.Entry where
  | directory
  | file (content : ByteArray) (modified : Int)

/-- The entries below the working directory, each under its parts. -/
structure FileSystem where
  entries : List (List String × FileSystem.Entry)

namespace FileSystem

/-- No entries. -/
def empty : FileSystem := ⟨[]⟩

/-- What is at the given parts. The working directory itself is always there. -/
def entry? (fs : FileSystem) (parts : List String) : Option Entry :=
  if parts = [] then some .directory else fs.entries.lookup parts

/-- Puts an entry at the given parts. -/
def put (fs : FileSystem) (parts : List String) (e : Entry) : FileSystem :=
  ⟨(parts, e) :: fs.entries.filter fun (p, _) => p ≠ parts⟩

/-- Makes the directories that the parts lead through, as far as they are missing. -/
def makeParents (fs : FileSystem) (parts : List String) : FileSystem :=
  (List.range parts.length).foldl
    (fun fs n =>
      if (fs.entry? (parts.take n)).isSome then fs else fs.put (parts.take n) .directory) fs

/-- Writes a file, with the directories that lead to it. -/
def write (fs : FileSystem) (parts : List String) (content : ByteArray) (modified : Int) :
    FileSystem :=
  (fs.makeParents parts).put parts (.file content modified)

/-- Makes a directory, with those that lead to it. -/
def makeDirectory (fs : FileSystem) (parts : List String) : FileSystem :=
  if (fs.entry? parts).isSome then fs else (fs.makeParents parts).put parts .directory

/-- Removes an entry and everything below it. -/
def remove (fs : FileSystem) (parts : List String) : FileSystem :=
  ⟨fs.entries.filter fun (p, _) => !parts.isPrefixOf p⟩

/-- How many bytes a name may take. -/
def maxName : Nat := 255

/-- A place on the way along a path. -/
inductive Position where
  /-- In the working directory or below, at these parts. -/
  | inside (parts : List String)
  /-- This many directories above the working directory. -/
  | above (levels : Nat)
  /-- At the top, outside of everything known. -/
  | top
deriving DecidableEq, Repr

/-- One step along a path. Nothing is known outside the working directory. -/
def step (fs : FileSystem) (position : Position) (part : String) : Except FileError Position :=
  match position with
  | .inside parts =>
    match fs.entry? parts with
    | some .directory =>
      if part = "" ∨ part = "." then .ok (.inside parts)
      else if part = ".." then
        if parts = [] then .ok (.above 1) else .ok (.inside parts.dropLast)
      else if maxName < part.utf8ByteSize then .error .nameTooLong
      else if (fs.entry? (parts ++ [part])).isSome then .ok (.inside (parts ++ [part]))
      else .error .missing
    | _ => .error .notDirectory
  | .above levels =>
    if part = "" ∨ part = "." then .ok (.above levels)
    else if part = ".." then .ok (.above (levels + 1))
    else if maxName < part.utf8ByteSize then .error .nameTooLong
    else .error .missing
  | .top =>
    if part = "" ∨ part = "." ∨ part = ".." then .ok .top
    else if maxName < part.utf8ByteSize then .error .nameTooLong
    else .error .missing

/-- Where a written path leads. -/
def locate (fs : FileSystem) (written : String) : Except FileError Position :=
  if written.toList.contains '\x00' then .error .nullCharacter
  else
    let start : Position := if written.toList.head? = some '/' then .top else .inside []
    (Path.split written).foldlM fs.step start

/-- The plain path of what a written path leads to. It is the path below the working directory, not
the one from the top. -/
def canonical (fs : FileSystem) (written : String) : Except FileError Path := do
  match ← fs.locate written with
  | .inside parts => return ⟨false, parts⟩
  | .above levels => return ⟨false, List.replicate levels ".."⟩
  | .top => return ⟨true, []⟩

/-- The time of the last change of the file that a path leads to. A directory has none here. -/
def modified? (fs : FileSystem) (written : String) : Except FileError (Option Int) := do
  match ← fs.locate written with
  | .inside parts =>
    match fs.entry? parts with
    | some (.file _ modified) => return some modified
    | _ => return none
  | _ => return none

/-- The text of a file. -/
def read (fs : FileSystem) (written : String) : Except FileError String := do
  match ← fs.locate written with
  | .inside parts =>
    match fs.entry? parts with
    | some (.file content _) =>
      match String.fromUTF8? content with
      | some text => return text
      | none => throw .notText
    | _ => throw .isDirectory
  | _ => throw .isDirectory

end FileSystem

end Stencil
