import Strongbox.Time

/-!
# File attributes

A `FileStat` is what the store tells about a node: its number, its links, its size, its times and a
*mode*, which holds the kind of the node above twelve permission bits.

* `FileStat.kind?` reads the kind from the mode.
* `FileStat.modeText` is the ten-letter form of the mode, such as `drwxr-xr-x`.
-/

namespace Strongbox

/-- The kinds of node, as far as a mode tells them apart. -/
inductive FileKind where
  | directory
  | file
  | symlink
  deriving DecidableEq, Repr

/-- The bits of a mode that give the kind. -/
def FileKind.modeBits : FileKind → Nat
  | .directory => 0o040000
  | .file => 0o100000
  | .symlink => 0o120000

/-- The bits of a mode that grant permissions. -/
def permissionMask : Nat := 0o7777

/-- The block size that the store reports. -/
def pageSize : Nat := 4096

/-- The largest file that the store holds, in bytes. -/
def maxFileSize : Nat := UInt32.size

/-- The attributes of a node. -/
structure FileStat where
  dev : Nat
  ino : Nat
  mode : Nat
  nlink : Nat
  uid : Nat
  gid : Nat
  rdev : Nat
  size : Nat
  atime : Time
  mtime : Time
  ctime : Time
  blksize : Nat
  blocks : Nat
  deriving DecidableEq, Repr

namespace FileStat

/-- The attributes of nothing in particular. -/
def blank : FileStat :=
  ⟨0, 0, 0, 0, 0, 0, 0, 0, .epoch, .epoch, .epoch, pageSize, 0⟩

/-- The kind that the mode describes, if it is one of the three. -/
def kind? (stat : FileStat) : Option FileKind :=
  let bits := stat.mode &&& 0o170000
  if bits = FileKind.directory.modeBits then some .directory
  else if bits = FileKind.file.modeBits then some .file
  else if bits = FileKind.symlink.modeBits then some .symlink
  else none

def isDir (stat : FileStat) : Bool := stat.kind? = some .directory
def isFile (stat : FileStat) : Bool := stat.kind? = some .file
def isSymlink (stat : FileStat) : Bool := stat.kind? = some .symlink

/-- The permission bits alone. -/
def permissions (stat : FileStat) : Nat :=
  stat.mode &&& permissionMask

/-- The word for the kind; whatever is neither directory nor link counts as a file. -/
def typeText (stat : FileStat) : String :=
  match stat.kind? with
  | some .directory => "dir"
  | some .symlink => "link"
  | _ => "file"

/-- The three letters for the permissions of one class of users. -/
def triad (bits : Nat) : List Char :=
  [if bits.testBit 2 then 'r' else '-', if bits.testBit 1 then 'w' else '-',
    if bits.testBit 0 then 'x' else '-']

/-- One letter for the kind and three for each class of users, as in a long listing. -/
def modeText (stat : FileStat) : String :=
  let kind := match stat.kind? with
    | some .directory => 'd'
    | some .symlink => 'l'
    | _ => '-'
  String.ofList (kind :: triad (stat.mode >>> 6) ++ triad (stat.mode >>> 3) ++ triad stat.mode)

/-- A number in octal. -/
def octal (n : Nat) : String :=
  String.ofList (Nat.toDigits 8 n)

end FileStat

end Strongbox
