import Strongbox.Tree

/-!
# Operations on a namespace

The calls of a POSIX file system on the tree of a container.  Each is a function of the tree and the
stamp of the call, gives the new tree or an error number, and leaves no trace when it fails.

* Nodes are made by `create`, `mkdir`, `symlink` and `link`, removed by `unlink` and `rmdir`, and
  moved by `rename`.
* Files are read and changed by `openFile`, `read`, `write` and `truncate`.
* Attributes are read by `getattr`, `access` and `readdir`, and changed by `chmod` and `utimens`.

All keys are taken as given; the callers pass normalized ones.
-/

namespace Strongbox.Tree

/-! ## Making nodes -/

/-- Make an empty file. -/
def create (t : Tree) (stamp : Stamp) (key : String) (mode : Nat) : Except Errno Tree :=
  t.insertNode stamp key (.fresh stamp (.file []) mode)

/-- Make an empty directory. -/
def mkdir (t : Tree) (stamp : Stamp) (key : String) (mode : Nat) : Except Errno Tree :=
  t.insertNode stamp key (.fresh stamp .directory mode)

/-- Make a symbolic link.  Its target is any text. -/
def symlink (t : Tree) (stamp : Stamp) (target key : String) : Except Errno Tree :=
  t.insertNode stamp key (.fresh stamp (.symlink target) 0o777)

/-- Give a node that is no directory a further key. -/
def link (t : Tree) (stamp : Stamp) (source target : String) : Except Errno Tree := do
  let ino ← t.lookup source
  if (← t.inode ino).isDir then .error .notPermitted
  if t.contains target then .error .alreadyExists
  t.requireParent target
  let linked : Tree := { t with entries := t.entries.insert target ino }
  .ok ((linked.modify ino fun inode =>
    { inode with nlink := inode.nlink + 1, ctime := stamp.now }).touchParent stamp target)

/-! ## Removing nodes -/

/-- Remove a key of a node that is no directory. -/
def unlink (t : Tree) (stamp : Stamp) (key : String) : Except Errno Tree := do
  let ino ← t.lookup key
  if (← t.inode ino).isDir then .error .isDirectory
  .ok ((t.removeKey stamp key ino).touchParent stamp key)

/-- Remove an empty directory other than the root. -/
def rmdir (t : Tree) (stamp : Stamp) (key : String) : Except Errno Tree :=
  if key = "/" then .error .busy
  else do
    let ino ← t.lookup key
    if !(← t.inode ino).isDir then .error .notDirectory
    if !(t.childKeys key).isEmpty then .error .notEmpty
    .ok ((t.removeKey stamp key ino).touchParent stamp key)

/-! ## Moving nodes -/

/-- The key that a key at or below `source` gets when `source` moves to `target`. -/
def movedKey (source target key : String) : String :=
  target ++ String.ofList (key.toList.drop source.length)

/-- Move one entry to the key it gets. -/
def moveEntry (source target : String) (entries : Std.ExtTreeMap String Nat) (key : String) :
    Std.ExtTreeMap String Nat :=
  match entries[key]? with
  | some ino => (entries.erase key).insert (movedKey source target key) ino
  | none => entries

/-- Make room for a moved node: whatever is at the target has to be of the same sort, and an empty
directory if it is one. -/
def displace (t : Tree) (stamp : Stamp) (movingDir : Bool) (target : String) (existing : Nat) :
    Except Errno Tree := do
  let targetDir := (← t.node target).isDir
  if movingDir && !targetDir then .error .notDirectory
  else if !movingDir && targetDir then .error .isDirectory
  else if movingDir && !(t.childKeys target).isEmpty then .error .notEmpty
  else .ok (t.removeKey stamp target existing)

/-- Move a node, with everything below it, to a free target. -/
def relocate (t : Tree) (stamp : Stamp) (movingDir : Bool) (ino : Nat) (source target : String) :
    Tree :=
  let moved := source :: (if movingDir then t.descendantKeys source else [])
  let entries := moved.foldl (moveEntry source target) t.entries
  let relocated : Tree := { t with entries := entries }
  ((relocated.modify ino (.touchChanged stamp)).touchParent stamp source).touchParent stamp target

/-- Move a node to another key.  Nothing happens when both keys name it already, and a directory
does not move below itself. -/
def rename (t : Tree) (stamp : Stamp) (source target : String) : Except Errno Tree := do
  let ino ← t.lookup source
  if source = target then .ok t
  else if source = "/" ∨ target = "/" then .error .busy
  else if Key.isBelow target source then .error .invalid
  else
    t.requireParent target
    let movingDir := (← t.node source).isDir
    match t.entries[target]? with
    | none => .ok (t.relocate stamp movingDir ino source target)
    | some existing =>
      if existing = ino then .ok t
      else
        let cleared ← t.displace stamp movingDir target existing
        .ok (cleared.relocate stamp movingDir ino source target)

/-! ## File contents -/

/-- The number of the regular file that a key names, and its data. -/
def fileData (t : Tree) (key : String) : Except Errno (Nat × Bytes) := do
  let ino ← t.lookup key
  match (← t.inode ino).kind with
  | .file data => .ok (ino, data)
  | .directory => .error .isDirectory
  | .symlink _ => .error .invalid

/-- Open a node.  A directory is not opened for writing, and a file opened for writing may lose its
data. -/
def openFile (t : Tree) (stamp : Stamp) (key : String) (flags : OpenFlags) : Except Errno Tree := do
  let ino ← t.lookup key
  match (← t.inode ino).kind with
  | .directory => if flags.writes then .error .isDirectory else .ok t
  | .file _ =>
    if flags.writes && flags.contains .truncate then .ok (t.modify ino (.setData stamp []))
    else .ok t
  | .symlink _ => .ok t

/-- Up to `count` bytes of a file from an offset on.  Reading something at or past the end is
an error, reading nothing is not. -/
def read (t : Tree) (key : String) (count offset : Nat) : Except Errno Bytes := do
  let (_, data) ← t.fileData key
  if count = 0 then .ok []
  else if data.length ≤ offset then .error .ioFailure
  else .ok ((data.drop offset).take count)

/-- The data with zeros behind it up to a length. -/
def extend (data : Bytes) (length : Nat) : Bytes :=
  data ++ List.replicate (length - data.length) 0

/-- The data with a buffer in place of the bytes from an offset on. -/
def splice (data buffer : Bytes) (offset : Nat) : Bytes :=
  let full := extend data (offset + buffer.length)
  full.take offset ++ buffer ++ full.drop (offset + buffer.length)

/-- Put a buffer into a file.  The file grows with zeros up to the offset. -/
def write (t : Tree) (stamp : Stamp) (key : String) (buffer : Bytes) (offset : Nat) :
    Except Errno Tree := do
  let (ino, data) ← t.fileData key
  if maxFileSize < offset + buffer.length then .error .tooBig
  .ok (t.modify ino (.setData stamp (splice data buffer offset)))

/-- Cut a file to a length, or let it grow with zeros. -/
def truncate (t : Tree) (stamp : Stamp) (key : String) (length : Nat) : Except Errno Tree := do
  let (ino, data) ← t.fileData key
  if maxFileSize < length then .error .tooBig
  .ok (t.modify ino (.setData stamp ((extend data length).take length)))

/-! ## Attributes -/

/-- The number of links of a node.  A directory is linked by its own dot, by the entry in its
parent, and by the dots of every directory in it. -/
def linkCount (t : Tree) (key : String) (inode : Inode) : Nat :=
  if inode.isDir then 2 + ((t.childKeys key).filter t.isDir).length else inode.nlink

/-- The attributes of a node. -/
def getattr (t : Tree) (key : String) : Except Errno FileStat := do
  let ino ← t.lookup key
  let inode ← t.inode ino
  let size := inode.kind.size
  .ok {
    dev := 0
    ino := ino
    mode := inode.kind.fileKind.modeBits ||| inode.perm
    nlink := t.linkCount key inode
    uid := inode.uid
    gid := inode.gid
    rdev := 0
    size := size
    atime := inode.atime
    mtime := inode.mtime
    ctime := inode.ctime
    blksize := pageSize
    blocks := (size + 511) / 512 }

/-- Ask whether the owner may access a node in a certain way. -/
def access (t : Tree) (key : String) (mode : AccessMode) : Except Errno Unit := do
  let inode ← t.node key
  let granted := (inode.perm >>> 6) &&& 7
  if mode = .existence ∨ granted &&& mode.wanted = mode.wanted then .ok ()
  else .error .accessDenied

/-- Set the permission bits of a node. -/
def chmod (t : Tree) (stamp : Stamp) (key : String) (mode : Nat) : Except Errno Tree := do
  let ino ← t.lookup key
  let _ ← t.inode ino
  .ok (t.modify ino fun inode => { inode with perm := mode &&& permissionMask, ctime := stamp.now })

/-- Set the times of a node; a time that is not given stays. -/
def utimens (t : Tree) (stamp : Stamp) (key : String) (atime mtime : Option Time) :
    Except Errno Tree := do
  let ino ← t.lookup key
  let _ ← t.inode ino
  .ok (t.modify ino fun inode =>
    { inode with
      atime := atime.getD inode.atime
      mtime := mtime.getD inode.mtime
      ctime := stamp.now })

/-- The names in a directory, behind `.` and `..`, in increasing order. -/
def readdir (t : Tree) (key : String) : Except Errno (List String) := do
  if !(← t.node key).isDir then .error .notDirectory
  .ok ("." :: ".." :: (t.childKeys key).map Key.fileName)

end Strongbox.Tree
