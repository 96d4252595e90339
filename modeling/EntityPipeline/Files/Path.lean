-- Paths as they are written: names between slashes. A path that begins with a slash starts at the
-- root, any other where the run takes place.
import EntityPipeline.Text.Pieces

namespace EntityPipeline

namespace Path

/-- A path below a base; a path from the root stands alone. -/
def join (base path : String) : String :=
  if path.toList.head? == some '/' then path
  else if base == "" || base.toList.getLast? == some '/' then base ++ path
  else base ++ "/" ++ path

/-- The names of a path, whatever the number of slashes between them. A path that ends in a slash
ends in the folder itself. -/
def names (path : String) : List String :=
  let named := ((Text.piecesAt '/' path.toList).filter (· != [])).map String.ofList
  if path.toList.getLast? == some '/' then named ++ ["."] else named

/-- Whether a path starts at the root. -/
def isAbsolute (path : String) : Bool := path.toList.head? == some '/'

/-- The part of a name before its last dot, and what follows that dot. A name without a dot, or
with no other dot than at its start, has nothing after it. -/
def splitName (name : String) : String × Option String :=
  let reversed := name.toList.reverse
  let extension := reversed.takeWhile (· != '.')
  match reversed.dropWhile (· != '.') with
  | _ :: c :: stem =>
    (String.ofList (c :: stem).reverse, some (String.ofList extension.reverse))
  | _ => (name, none)

/-- The name that a path ends in. -/
def fileName? (path : String) : Option String :=
  match ((names path).filter (· != ".")).getLast? with
  | some ".." => none
  | other => other

/-- The name that a path ends in, without what follows its last dot. -/
def stem? (path : String) : Option String := (fileName? path).map fun name => (splitName name).1

end Path

end EntityPipeline
