import Strongbox.Host.Error
import Strongbox.Key

/-!
# Host paths

A container lives at a path of the host, which is kept as the user wrote it except for redundant
slashes and dots.  Unlike a key, a host path keeps its `..`, because the host may resolve it
through a link.

* `HostPath.names` are the names of a path that carry meaning, and `HostPath.same` compares them.
* `HostPath.absolute` is the cleaned form.
* `HostPath.parent?` drops the last name.
-/

namespace Strongbox.HostPath

/-- The names of a path, without empty ones and dots. -/
def names (path : String) : List (List Char) :=
  let (first, rest) := Key.segments path.toList
  (first :: rest).filter fun name => name ≠ [] && name ≠ ['.']

/-- What an absolute path starts with.  Two leading slashes are kept, more count as one. -/
def lead (path : String) : String :=
  match path.toList with
  | '/' :: '/' :: '/' :: _ => "/"
  | '/' :: '/' :: _ => "//"
  | _ => "/"

/-- The path that starts with `lead` and goes on with names. -/
def join (lead : String) (names : List (List Char)) : String :=
  lead ++ String.ofList (['/'].intercalate names)

/-- Whether a path ends with a slash. -/
def endsWithSlash (path : String) : Bool :=
  path.toList.getLast? = some '/'

/-- The path without redundant slashes and dots.  A slash at the end is kept, since it tells that
the path should be a directory.  A relative path starts at the root. -/
def absolute (path : String) : Except HostError String :=
  if path.isEmpty then .error .emptyPath
  else
    let cleaned := join (lead path) (names path)
    .ok (if endsWithSlash path && !endsWithSlash cleaned then cleaned ++ "/" else cleaned)

/-- The cleaned form of a path, or the path itself if it has none. -/
def absoluteOrSelf (path : String) : String :=
  match absolute path with
  | .ok cleaned => cleaned
  | .error _ => path

/-- The path without its last name; a path without names has no parent. -/
def parent? (path : String) : Option String :=
  match (names path).dropLast, (names path).isEmpty with
  | _, true => none
  | [], false => some "/"
  | before, false => some (join (lead path) before)

/-- Whether two absolute paths are written with the same names. -/
def same (p q : String) : Bool :=
  names p == names q

end Strongbox.HostPath
