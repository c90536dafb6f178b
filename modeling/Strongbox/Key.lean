import Strongbox.Errno

/-!
# Keys

Every node of a container is named by a *key*: a leading slash and the names on the way from the
root, joined by single slashes, with no name empty, `.` or `..`.  The root's own key is `/`.

* `Key.normalize` computes the key of a path.  A relative path starts at the root, and `..` stops
  there.
* `Key.parent?`, `Key.fileName` and `Key.childPrefix` take a key apart and extend it.
* `Key.ancestors` are the keys above a key, and `Key.isBelow` orders keys by descent.
* `Key.child` and `Key.childName?` go between a directory's key and the keys directly in it.

The text is handled as a list of characters, so that each function is a short recursion.
-/

namespace Strongbox.Key

/-! ## From paths to keys -/

/-- The segments between slashes: the first one, and those behind each slash. -/
def segments : List Char → List Char × List (List Char)
  | [] => ([], [])
  | c :: cs =>
    let (first, rest) := segments cs
    if c = '/' then ([], first :: rest) else (c :: first, rest)

/-- One step of a walk from the root.  The stack holds the names walked down, innermost first:
an empty segment and `.` stay, `..` goes up, any other name goes down. -/
def step (stack : List (List Char)) : List Char → List (List Char)
  | [] => stack
  | ['.'] => stack
  | ['.', '.'] => stack.tail
  | name => name :: stack

/-- The names that a walk along a path ends with, outermost first. -/
def walk (path : List Char) : List (List Char) :=
  let (first, rest) := segments path
  ((first :: rest).foldl step []).reverse

/-- The written key of a list of names. -/
def render : List (List Char) → List Char
  | [] => ['/']
  | names => names.flatMap ('/' :: ·)

/-- The key of a path.  An empty path names nothing, and no name holds a NUL. -/
def normalize (path : String) : Except Errno String :=
  if path.isEmpty then .error .noEntry
  else if path.toList.contains '\x00' then .error .invalid
  else .ok (String.ofList (render (walk path.toList)))

/-! ## The parts of a key -/

/-- The text before the last slash, if there is one, and the text after it. -/
def splitLast (key : List Char) : Option (List Char) × List Char :=
  let backwards := key.reverse
  let name := (backwards.takeWhile (· ≠ '/')).reverse
  match backwards.dropWhile (· ≠ '/') with
  | [] => (none, name)
  | _ :: before => (some before.reverse, name)

/-- The key of the directory that holds `key`; the root lies in none. -/
def parent? (key : String) : Option String :=
  if key = "/" then none
  else match (splitLast key.toList).1 with
    | none => none
    | some [] => some "/"
    | some before => some (String.ofList before)

/-- The last name of a key, empty for the root. -/
def fileName (key : String) : String :=
  String.ofList (splitLast key.toList).2

/-- What every key below `key` starts with. -/
def childPrefix (key : String) : String :=
  if key = "/" then "/" else key ++ "/"

/-- Whether a text starts with another. -/
def startsWith (text start : String) : Bool :=
  start.toList.isPrefixOf text.toList

/-- The directories above a key, nearest first, as many as `fuel` allows. -/
def ancestorsWithin : Nat → String → List String
  | 0, _ => []
  | fuel + 1, key =>
    match parent? key with
    | none => []
    | some parent => parent :: ancestorsWithin fuel parent

/-- The directories above a key, nearest first.  Each is shorter than the one before it. -/
def ancestors (key : String) : List String :=
  ancestorsWithin key.length key

/-- The key of a name in a directory. -/
def child (directory name : String) : String :=
  childPrefix directory ++ name

/-- The name that a key has in a directory, if it lies directly in it. -/
def childName? (directory key : String) : Option String :=
  let start := childPrefix directory
  if startsWith key start then
    let name := key.toList.drop start.length
    if name.isEmpty || name.contains '/' then none else some (String.ofList name)
  else none

/-- Whether `key` lies strictly below `ancestor`. -/
def isBelow (key ancestor : String) : Bool :=
  key != ancestor && startsWith key (childPrefix ancestor)

end Strongbox.Key
