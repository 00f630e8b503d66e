/-
**Paths as text.**

A path is names with slashes between, and it is absolute when it begins with a slash. Nothing here
looks at a file system, and `.` and `..` are names like others.

* `Path.join`: a name below a directory; an absolute name stands for itself.
* `Path.stem`: the last name without its extension.
-/

namespace TypeChart.Path

/-- A path from the root. -/
def isAbsolute (path : String) : Bool :=
  path.toList.head? == some '/'

/-- The names of a path; a slash at either end, or next to another, stands beside an empty name. -/
def names (path : String) : List String :=
  (path.toList.splitOn '/').map String.ofList

/-- A path below a directory. No slash is added after an empty directory and after one that ends
in a slash. -/
def join (directory name : String) : String :=
  if isAbsolute name then name
  else if directory.isEmpty || directory.toList.getLast? == some '/' then directory ++ name
  else directory ++ "/" ++ name

/-- The last name of a path. -/
def lastName (path : String) : String :=
  (names path).getLast?.getD ""

/-- A name without its last dot and what follows that. The two names for directories have no
extension, and neither has a name with one dot at its beginning. -/
def withoutExtension (name : String) : String :=
  if name = "." ∨ name = ".." then name
  else
    let extension := name.toList.reverse.takeWhile (· != '.')
    match name.toList.reverse.drop extension.length with
    | '.' :: first :: rest => String.ofList (first :: rest).reverse
    | _ => name

/-- The last name of a path without its extension. -/
def stem (path : String) : String :=
  withoutExtension (lastName path)

/-- What the system takes of a path that it is given: all before the first null character. -/
def taken (path : String) : String :=
  String.ofList (path.toList.takeWhile (· != '\x00'))

end TypeChart.Path
