/-!
Paths as text, and as the names they lead through.
-/

namespace MediaFilter

/-- A name below a path; a slash goes between them unless there is one.  A name that begins with a
slash is a path of its own. -/
def joinPath (base name : String) : String :=
  if name.startsWith "/" then name
  else if base.isEmpty || base.endsWith "/" then base ++ name
  else base ++ "/" ++ name

/-- The names that a path leads through; slashes in a row count as one. -/
def pathNames (path : String) : List String :=
  ((path.toList.splitOn '/').map String.ofList).filter fun name => !name.isEmpty

structure FilePath where
  names : List String
  /-- The bytes that its text takes. -/
  size : Nat
  deriving DecidableEq, Repr

def FilePath.ofText (path : String) : FilePath := ⟨pathNames path, path.utf8ByteSize⟩

end MediaFilter
