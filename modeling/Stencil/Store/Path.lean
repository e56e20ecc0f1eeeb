/-!
# Paths

Paths as they are written, and what tells two of them apart. Repeated slashes, slashes at the end
and single dots do not count; going up with two dots does, because it depends on the files.

All paths that are written without a slash in front are taken below one directory, which stays the
same. So a single dot in front, too, says nothing, and a path that was found is told by its parts
below that directory. Where the directory is on a disk is never asked.
-/

namespace Stencil

/-- A path apart from how it is written, below the one directory unless it is absolute. -/
structure Path where
  absolute : Bool
  parts : List String
deriving DecidableEq, Repr

namespace Path

/-- The parts between slashes. -/
def split (written : String) : List String :=
  (written.toList.splitOn '/').map String.ofList

/-- Whether a part leads nowhere else. -/
def isIdle (part : String) : Bool := part = "" || part = "."

/-- The path that is written. -/
def ofString (written : String) : Path :=
  ⟨written.toList.head? = some '/', (split written).filter fun p => !isIdle p⟩

/-- The plain written form. -/
def toString (p : Path) : String := (if p.absolute then "/" else "") ++ "/".intercalate p.parts

/-- The written form of a name in a directory. A name that starts at the top stands by itself. -/
def join (directory name : String) : String :=
  if name.toList.head? = some '/' ∨ directory = "" then name
  else if directory.toList.getLast? = some '/' then directory ++ name
  else directory ++ "/" ++ name

/-- The written form of the directory that a path is in: what stands before the last part that leads
somewhere. -/
def directory (written : String) : String :=
  match (split written).reverse.dropWhile isIdle with
  | [] => ""
  | _ :: before =>
    match before.dropWhile isIdle with
    | [] => if written.toList.head? = some '/' then "/" else ""
    | kept => "/".intercalate kept.reverse

end Path

end Stencil
