import Std.Data.ExtTreeMap
import Strongbox.Bytes
import Strongbox.FileStat
import Strongbox.Key
import Strongbox.OpenFlags

/-!
# The namespace of a container

A `Tree` is everything a container holds: which inode each key names, and what each inode is.  Hard
links are several keys of one inode.  Both maps are extensional, so two trees with the same entries
and inodes are equal.

* `Tree.lookup` and `Tree.node` find what a key names, or say why it names nothing.
* `Tree.insertNode` and `Tree.release` are the two ways in which inodes come and go.
* `Tree.childKeys` are the keys directly in a directory.

The operations on files and directories are in `Strongbox.Tree.Operations`.
-/

namespace Strongbox

/-- What an inode holds. -/
inductive NodeKind where
  | directory
  | file (data : Bytes)
  | symlink (target : String)
  deriving DecidableEq, Repr

namespace NodeKind

def fileKind : NodeKind → FileKind
  | .directory => .directory
  | .file _ => .file
  | .symlink _ => .symlink

/-- The size of what an inode holds, in bytes. -/
def size : NodeKind → Nat
  | .directory => 0
  | .file data => data.length
  | .symlink target => target.utf8ByteSize

end NodeKind

/-- A node: what it holds, its permission bits, its owner, the number of keys that name it, and
the times of its last access, of the last change of what it holds, and of the last change at all. -/
structure Inode where
  kind : NodeKind
  perm : Nat
  uid : Nat
  gid : Nat
  nlink : Nat
  atime : Time
  mtime : Time
  ctime : Time
  deriving DecidableEq, Repr

/-- What an operation marks inodes with: the clock reading and the user. -/
structure Stamp where
  now : Time
  uid : Nat
  gid : Nat
  deriving DecidableEq, Repr

namespace Inode

/-- A new inode with one link. -/
def fresh (stamp : Stamp) (kind : NodeKind) (mode : Nat) : Inode where
  kind := kind
  perm := mode &&& permissionMask
  uid := stamp.uid
  gid := stamp.gid
  nlink := 1
  atime := stamp.now
  mtime := stamp.now
  ctime := stamp.now

def isDir (inode : Inode) : Bool :=
  inode.kind = .directory

/-- The inode after a change of what it holds. -/
def touchModified (stamp : Stamp) (inode : Inode) : Inode :=
  { inode with mtime := stamp.now, ctime := stamp.now }

/-- The inode after a change of its attributes. -/
def touchChanged (stamp : Stamp) (inode : Inode) : Inode :=
  { inode with ctime := stamp.now }

/-- The inode with other data, changed at a clock reading. -/
def setData (stamp : Stamp) (data : Bytes) (inode : Inode) : Inode :=
  { inode with kind := .file data }.touchModified stamp

end Inode

/-- The namespace of a container. -/
structure Tree where
  /-- The inode number of every key. -/
  entries : Std.ExtTreeMap String Nat
  /-- The inode of every number. -/
  inodes : Std.ExtTreeMap Nat Inode
  /-- The number of the next inode. -/
  nextIno : Nat
  deriving DecidableEq

namespace Tree

/-- The number of the root directory. -/
def rootIno : Nat := 1

/-- The tree that holds the root directory and nothing else. -/
def empty (stamp : Stamp) : Tree where
  entries := (∅ : Std.ExtTreeMap String Nat).insert "/" rootIno
  inodes := (∅ : Std.ExtTreeMap Nat Inode).insert rootIno (.fresh stamp .directory 0o755)
  nextIno := rootIno + 1

/-! ## Finding nodes -/

/-- Why a key names nothing: the nearest directory above it that exists is none, or it lacks the
name. -/
def missing (t : Tree) (key : String) : Errno :=
  match (Key.ancestors key).findSome? (t.entries[·]?) with
  | none => .noEntry
  | some ino =>
    match t.inodes[ino]? with
    | none => .noEntry
    | some inode => if inode.isDir then .noEntry else .notDirectory

/-- The number of the inode that a key names. -/
def lookup (t : Tree) (key : String) : Except Errno Nat :=
  match t.entries[key]? with
  | some ino => .ok ino
  | none => .error (t.missing key)

/-- The inode with a number. -/
def inode (t : Tree) (ino : Nat) : Except Errno Inode :=
  match t.inodes[ino]? with
  | some inode => .ok inode
  | none => .error .ioFailure

/-- The inode that a key names. -/
def node (t : Tree) (key : String) : Except Errno Inode := do
  t.inode (← t.lookup key)

/-- Whether a key names something. -/
def contains (t : Tree) (key : String) : Bool :=
  t.entries.contains key

/-- Whether a key names a directory. -/
def isDir (t : Tree) (key : String) : Bool :=
  match t.node key with
  | .ok inode => inode.isDir
  | .error _ => false

/-- Require the parent of a key to be a directory.  The root has no parent and exists already. -/
def requireParent (t : Tree) (key : String) : Except Errno Unit :=
  match Key.parent? key with
  | none => .error .alreadyExists
  | some parent => do
    if (← t.node parent).isDir then .ok () else .error .notDirectory

/-- The keys directly in a directory, in increasing order. -/
def childKeys (t : Tree) (directory : String) : List String :=
  t.entries.keys.filter fun key => (Key.childName? directory key).isSome

/-- The keys strictly below a key, in increasing order. -/
def descendantKeys (t : Tree) (key : String) : List String :=
  t.entries.keys.filter fun k =>
    let start := Key.childPrefix key
    Key.startsWith k start && start.length < k.length

/-! ## Changing nodes -/

/-- Change the inode with a number. -/
def modify (t : Tree) (ino : Nat) (change : Inode → Inode) : Tree :=
  { t with inodes := t.inodes.modify ino change }

/-- Mark the directory that holds a key as changed. -/
def touchParent (stamp : Stamp) (key : String) (t : Tree) : Tree :=
  match (Key.parent? key).bind (t.entries[·]?) with
  | some ino => t.modify ino (.touchModified stamp)
  | none => t

/-- Add a new inode under a new key. -/
def insertNode (t : Tree) (stamp : Stamp) (key : String) (inode : Inode) : Except Errno Tree :=
  if t.contains key then .error .alreadyExists
  else do
    t.requireParent key
    let inserted : Tree :=
      { entries := t.entries.insert key t.nextIno
        inodes := t.inodes.insert t.nextIno inode
        nextIno := t.nextIno + 1 }
    .ok (inserted.touchParent stamp key)

/-- Drop one link to an inode, and the inode with its last link. -/
def release (stamp : Stamp) (ino : Nat) (t : Tree) : Tree :=
  match t.inodes[ino]? with
  | none => t
  | some inode =>
    if inode.nlink ≤ 1 then { t with inodes := t.inodes.erase ino }
    else
      t.modify ino fun inode => { inode with nlink := inode.nlink - 1, ctime := stamp.now }

/-- Remove a key and its link. -/
def removeKey (stamp : Stamp) (key : String) (ino : Nat) (t : Tree) : Tree :=
  (({ t with entries := t.entries.erase key } : Tree).release stamp ino)

/-! ## Times -/

/-- Whether every time lies at or after the epoch, as it must in a written payload. -/
def timesRepresentable (t : Tree) : Bool :=
  t.inodes.toList.all fun (_, inode) =>
    !inode.atime.beforeEpoch && !inode.mtime.beforeEpoch && !inode.ctime.beforeEpoch

end Tree

end Strongbox
