import Strongbox.Text.Blank

/-!
# Paths on the command line

A path that a user types need not start with a slash and may have blanks around it.

* `EntryPath.ofArgument` is the path that is handed on, without slashes at its end.
* `EntryPath.join` is the path of a name in a directory.

Neither resolves dots; that is left to the store.
-/

namespace Strongbox.EntryPath

/-- The path without slashes at its end, unless it has nothing but slashes. -/
def stripSlashes (path : List Char) : List Char :=
  match Text.trimEndChars (· == '/') path with
  | [] => ['/']
  | stripped => stripped

/-- The path that an argument stands for. -/
def ofArgument (argument : String) : String :=
  let trimmed := (Text.trim argument).toList
  let rooted := if trimmed.head? = some '/' then trimmed else '/' :: trimmed
  String.ofList (stripSlashes rooted)

/-- The path of a name in a directory. -/
def join (directory name : String) : String :=
  if directory = "/" then "/" ++ name else directory ++ "/" ++ name

/-- The parts of a path between its slashes, none of them empty. -/
def components (path : String) : List String :=
  let (current, done) := path.toList.foldr
    (fun c (current, done) =>
      if c = '/' then ([], if current.isEmpty then done else String.ofList current :: done)
      else (c :: current, done))
    ([], [])
  if current.isEmpty then done else String.ofList current :: done

end Strongbox.EntryPath
