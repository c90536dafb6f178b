import Strongbox.Tree.Operations

/-!
# Changes

A `Change` is a call that may change a namespace, as a value: its callers give paths, and
`Change.resolve` puts keys in their place.

* `Change.apply` carries a change out on a tree.
* `Change.saving` tells when a change has to reach the container file.
-/

namespace Strongbox

/-- When a change reaches the container file. -/
inductive Saving where
  /-- Nothing has changed. -/
  | never
  /-- File data changed, which is saved with the next save of any kind. -/
  | later
  /-- The change is saved before the call returns. -/
  | atOnce
  deriving DecidableEq, Repr

/-- A call that may change a namespace. -/
inductive Change where
  | create (path : String) (mode : Nat)
  | mkdir (path : String) (mode : Nat)
  | symlink (target path : String)
  | link (source target : String)
  | unlink (path : String)
  | rmdir (path : String)
  | rename (source target : String)
  | openFile (path : String) (flags : OpenFlags)
  | write (path : String) (buffer : Bytes) (offset : Nat)
  | truncate (path : String) (length : Nat)
  | chmod (path : String) (mode : Nat)
  | utimens (path : String) (atime mtime : Option Time)
  deriving DecidableEq, Repr

namespace Change

/-- The change with keys in place of its paths.  Of two paths the first one is looked at first, and
the target of a symbolic link is no path. -/
def resolve : Change → Except Errno Change
  | .create path mode => return .create (← Key.normalize path) mode
  | .mkdir path mode => return .mkdir (← Key.normalize path) mode
  | .symlink target path => return .symlink target (← Key.normalize path)
  | .link source target => return .link (← Key.normalize source) (← Key.normalize target)
  | .unlink path => return .unlink (← Key.normalize path)
  | .rmdir path => return .rmdir (← Key.normalize path)
  | .rename source target => return .rename (← Key.normalize source) (← Key.normalize target)
  | .openFile path flags => return .openFile (← Key.normalize path) flags
  | .write path buffer offset => return .write (← Key.normalize path) buffer offset
  | .truncate path length => return .truncate (← Key.normalize path) length
  | .chmod path mode => return .chmod (← Key.normalize path) mode
  | .utimens path atime mtime => return .utimens (← Key.normalize path) atime mtime

/-- The tree after a change whose paths are keys. -/
def apply (stamp : Stamp) (t : Tree) : Change → Except Errno Tree
  | .create key mode => t.create stamp key mode
  | .mkdir key mode => t.mkdir stamp key mode
  | .symlink target key => t.symlink stamp target key
  | .link source target => t.link stamp source target
  | .unlink key => t.unlink stamp key
  | .rmdir key => t.rmdir stamp key
  | .rename source target => t.rename stamp source target
  | .openFile key flags => t.openFile stamp key flags
  | .write key buffer offset => t.write stamp key buffer offset
  | .truncate key length => t.truncate stamp key length
  | .chmod key mode => t.chmod stamp key mode
  | .utimens key atime mtime => t.utimens stamp key atime mtime

/-- Opening a file changes it only if its data is dropped, and data that is written can wait. -/
def saving : Change → Saving
  | .openFile _ flags => if flags.contains .truncate then .atOnce else .never
  | .write .. => .later
  | _ => .atOnce

/-- The number of bytes that a change takes in. -/
def taken : Change → Nat
  | .write _ buffer _ => buffer.length
  | _ => 0

end Change

end Strongbox
