/-!
# Paths

Where a file is.  A path is a row of names between slashes; empty names and
single dots say nothing and are left out.  A path that starts with a slash
starts at the root.
-/

namespace Logo

/-- A path: how its root is written, if it has one, and the names on the way. -/
structure Path where
  root : String
  names : List String
deriving DecidableEq, Repr

namespace Path

/-- The root of a path; two slashes, but no more, are kept apart from one. -/
def rootOf : List Char → String
  | ['/', '/'] => "//"
  | '/' :: '/' :: third :: _ => if third == '/' then "/" else "//"
  | '/' :: _ => "/"
  | _ => ""

/-- Read a path. -/
def ofString (text : String) : Path :=
  ⟨rootOf text.toList,
    (text.splitOn "/").filter fun name => !(name == "" || name == ".")⟩

/-- Go on from a path; a path from the root starts anew. -/
def join (path further : Path) : Path :=
  if further.root == "" then ⟨path.root, path.names ++ further.names⟩ else further

/-- The last name of a path. -/
def name (path : Path) : String :=
  path.names.getLast?.getD ""

/-- Write a path. -/
def render (path : Path) : String :=
  if path.root == "" && path.names.isEmpty then "."
  else path.root ++ "/".intercalate path.names

end Path

end Logo
