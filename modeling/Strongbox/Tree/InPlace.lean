import Strongbox.Tree.Change

/-!
# Operations in place

The container engine does not make new trees: it works on the one that it holds, step by step, and a
call that gives up in the middle would leave a half-changed tree behind.  An `Edit` is such work.
It gives an outcome together with the tree it leaves, also where it fails.

* `Edit.look` asks something about the tree, and `modify` changes it for good.
* `Change.edit` is the work of a change, in the order in which the checks are made and the maps are
  changed, and `Change.perform` carries it out.

What each change amounts to is `Change.apply`, which knows no half-changed trees.
-/

namespace Strongbox

/-- Work on a tree in place.  What was changed before a failure stays changed. -/
abbrev Edit (α : Type) := ExceptT Errno (StateM Tree) α

namespace Edit

/-- The outcome of work on a tree, and the tree it leaves. -/
def perform (edit : Edit α) (t : Tree) : Except Errno α × Tree :=
  edit.run.run t

/-- Ask something about the tree, which may fail. -/
def look (question : Tree → Except Errno α) : Edit α := do
  MonadExcept.ofExcept (question (← get))

variable (stamp : Stamp)

/-! ## Making nodes -/

/-- Add a new inode under a new key. -/
def insertNode (key : String) (inode : Inode) : Edit Unit := do
  if (← get).contains key then throw .alreadyExists
  look (·.requireParent key)
  let ino := (← get).nextIno
  modify fun t => { t with nextIno := t.nextIno + 1 }
  modify fun t => { t with inodes := t.inodes.insert ino inode }
  modify fun t => { t with entries := t.entries.insert key ino }
  modify (Tree.touchParent stamp key)

/-- Give a node that is no directory a further key. -/
def link (source target : String) : Edit Unit := do
  let ino ← look (·.lookup source)
  if (← look (·.node source)).isDir then throw .notPermitted
  if (← get).contains target then throw .alreadyExists
  look (·.requireParent target)
  modify fun t => { t with entries := t.entries.insert target ino }
  modify (·.modify ino fun inode => { inode with nlink := inode.nlink + 1 })
  modify (·.modify ino (Inode.touchChanged stamp))
  modify (Tree.touchParent stamp target)

/-! ## Removing nodes -/

/-- Remove a key, drop its link, and mark the directory that held it. -/
def dropKey (key : String) (ino : Nat) : Edit Unit := do
  modify fun t => { t with entries := t.entries.erase key }
  modify (Tree.release stamp ino)
  modify (Tree.touchParent stamp key)

/-- Remove a key of a node that is no directory. -/
def unlink (key : String) : Edit Unit := do
  let ino ← look (·.lookup key)
  if (← look (·.node key)).isDir then throw .isDirectory
  dropKey stamp key ino

/-- Remove an empty directory other than the root. -/
def rmdir (key : String) : Edit Unit := do
  if key = "/" then throw .busy
  let ino ← look (·.lookup key)
  if !(← look (·.node key)).isDir then throw .notDirectory
  if !((← get).childKeys key).isEmpty then throw .notEmpty
  dropKey stamp key ino

/-! ## Moving nodes -/

/-- Make room for a moved node. -/
def displace (movingDir : Bool) (target : String) (existing : Nat) : Edit Unit := do
  let targetDir := (← look (·.node target)).isDir
  if movingDir && !targetDir then throw .notDirectory
  if !movingDir && targetDir then throw .isDirectory
  if movingDir && !((← get).childKeys target).isEmpty then throw .notEmpty
  modify fun t => { t with entries := t.entries.erase target }
  modify (Tree.release stamp existing)

/-- Move a node, with everything below it, to a free target: one entry after the other. -/
def relocate (movingDir : Bool) (ino : Nat) (source target : String) : Edit Unit := do
  let t ← get
  let below := if movingDir then t.descendantKeys source else []
  (source :: below).forM fun key =>
    modify fun t => { t with entries := Tree.moveEntry source target t.entries key }
  modify (·.modify ino (Inode.touchChanged stamp))
  modify (Tree.touchParent stamp source)
  modify (Tree.touchParent stamp target)

/-- Move a node to another key. -/
def rename (source target : String) : Edit Unit := do
  let ino ← look (·.lookup source)
  if source = target then pure ()
  else if source = "/" ∨ target = "/" then throw .busy
  else if Key.isBelow target source then throw .invalid
  else
    look (·.requireParent target)
    let movingDir := (← look (·.node source)).isDir
    match (← get).entries[target]? with
    | none => relocate stamp movingDir ino source target
    | some existing =>
      if existing = ino then pure ()
      else
        displace stamp movingDir target existing
        relocate stamp movingDir ino source target

/-! ## File contents -/

/-- Drop what a file holds, if it is opened for that. -/
def openFile (key : String) (flags : OpenFlags) : Edit Unit := do
  let ino ← look (·.lookup key)
  match (← look (·.inode ino)).kind with
  | .directory => if flags.writes then throw .isDirectory
  | .file _ =>
    if flags.writes && flags.contains .truncate then
      modify (·.modify ino fun inode => { inode with kind := .file [] })
      modify (·.modify ino (Inode.touchModified stamp))
  | .symlink _ => pure ()

/-- Put a buffer into a file: grow it, copy the buffer, mark it.  There is always memory for a file
within the limit.  A store that finds none answers `ENOSPC` before it has changed anything, as it
does with what is too big. -/
def write (key : String) (buffer : Bytes) (offset : Nat) : Edit Unit := do
  let (ino, data) ← look (·.fileData key)
  if maxFileSize < offset + buffer.length then throw .tooBig
  let grown := Tree.extend data (offset + buffer.length)
  modify (·.modify ino fun inode => { inode with kind := .file grown })
  modify (·.modify ino fun inode => { inode with
    kind := .file (grown.take offset ++ buffer ++ grown.drop (offset + buffer.length)) })
  modify (·.modify ino (Inode.touchModified stamp))

/-- Cut a file to a length, or let it grow with zeros, for which there is memory too. -/
def truncate (key : String) (length : Nat) : Edit Unit := do
  let (ino, data) ← look (·.fileData key)
  if maxFileSize < length then throw .tooBig
  modify (·.modify ino fun inode =>
    { inode with kind := .file ((Tree.extend data length).take length) })
  modify (·.modify ino (Inode.touchModified stamp))

/-! ## Attributes -/

/-- Set the permission bits of a node. -/
def chmod (key : String) (mode : Nat) : Edit Unit := do
  let ino ← look (·.lookup key)
  let _ ← look (·.inode ino)
  modify (·.modify ino fun inode => { inode with perm := mode &&& permissionMask })
  modify (·.modify ino (Inode.touchChanged stamp))

/-- Set the times of a node; a time that is not given stays. -/
def utimens (key : String) (atime mtime : Option Time) : Edit Unit := do
  let ino ← look (·.lookup key)
  let _ ← look (·.inode ino)
  modify (·.modify ino fun inode => { inode with atime := atime.getD inode.atime })
  modify (·.modify ino fun inode => { inode with mtime := mtime.getD inode.mtime })
  modify (·.modify ino (Inode.touchChanged stamp))

end Edit

namespace Change

/-- Carry a change out in place.  Its paths are keys. -/
def edit (stamp : Stamp) : Change → Edit Unit
  | .create key mode => Edit.insertNode stamp key (.fresh stamp (.file []) mode)
  | .mkdir key mode => Edit.insertNode stamp key (.fresh stamp .directory mode)
  | .symlink target key => Edit.insertNode stamp key (.fresh stamp (.symlink target) 0o777)
  | .link source target => Edit.link stamp source target
  | .unlink key => Edit.unlink stamp key
  | .rmdir key => Edit.rmdir stamp key
  | .rename source target => Edit.rename stamp source target
  | .openFile key flags => Edit.openFile stamp key flags
  | .write key buffer offset => Edit.write stamp key buffer offset
  | .truncate key length => Edit.truncate stamp key length
  | .chmod key mode => Edit.chmod stamp key mode
  | .utimens key atime mtime => Edit.utimens stamp key atime mtime

/-- The outcome of a change, and the tree it leaves. -/
def perform (stamp : Stamp) (change : Change) (t : Tree) : Except Errno Unit × Tree :=
  (change.edit stamp).perform t

end Change

end Strongbox
