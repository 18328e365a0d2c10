set_option autoImplicit false
set_option relaxedAutoImplicit false

/-!
Paths as they are written, without a look at any file.
-/

namespace Stencil.Filesystem

inductive Component
  | root
  | current
  | parent
  | name (s : String)
deriving DecidableEq, Repr

namespace Path

def pieces (path : String) : List String :=
  (path.toList.splitOn '/').map String.ofList

def isAbsolute (path : String) : Bool := path.toList.head? == some '/'

/-- The components of a path. Repeated slashes count once, and a point counts only at the beginning of a
relative path. -/
def components (path : String) : List Component :=
  let named := (pieces path).filter fun s => s != "" && s != "."
  let rest := named.map fun s => if s == ".." then Component.parent else .name s
  if isAbsolute path then .root :: rest
  else if (pieces path).head? = some "." then .current :: rest
  else rest

def same (p q : String) : Bool := components p == components q

def fileName? (path : String) : Option String :=
  match (components path).getLast? with
  | some (.name s) => some s
  | _ => none

/-- The path from its end without slashes and points that name nothing. A single character stays. -/
def trimmedEnd : List Char → List Char
  | '/' :: c :: r => trimmedEnd (c :: r)
  | '.' :: '/' :: r => if r.isEmpty then ['/'] else trimmedEnd ('/' :: r)
  | s => s

/-- The path without its last component, otherwise as it is written. The root and the empty path have none to
lose. -/
def parent? (path : String) : Option String :=
  match components path with
  | [] | [.root] => none
  | _ =>
    let shorter := (trimmedEnd path.toList.reverse).dropWhile (· != '/')
    some (String.ofList (trimmedEnd shorter).reverse)

/-- A path put behind a directory. An absolute one stands for itself. -/
def join (directory path : String) : String :=
  if isAbsolute path then path
  else if directory.isEmpty then path
  else if directory.toList.getLast? == some '/' then directory ++ path
  else directory ++ "/" ++ path

/-- The name under which a path is known: its last component, or all of it. -/
def shortName (path : String) : String := (fileName? path).getD path

end Path

end Stencil.Filesystem
