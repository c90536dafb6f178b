import Std.Data.ExtTreeMap
import Strongbox.Bytes
import Strongbox.Host.Path

/-!
# The host's file system

The part of the host that a store can see: directories and regular files with their contents and
permission bits, what the user of the store may do with them, and the figures of the volume that
holds them.

* `Host.resolve` follows a path name by name and tells why it leads nowhere.
* `Host.read`, `Host.present` and `Host.node` look at a path, and `Host.access` asks for rights.
* `Host.replaceFile` is the one way in which a store changes the host: it puts a complete new file
  in the place of an old one, or fails and leaves everything as it was.
* `Host.makeDirectory`, `Host.remove`, `Host.copy` and the like stand for other programs.
-/

namespace Strongbox

/-- What the host keeps at a path. -/
inductive HostNode where
  | directory (mode : Nat)
  | file (mode : Nat) (content : Bytes)
  deriving DecidableEq, Repr

namespace HostNode

def isDirectory : HostNode → Bool
  | .directory _ => true
  | .file _ _ => false

/-- The permission bits. -/
def mode : HostNode → Nat
  | .directory mode => mode
  | .file mode _ => mode

/-- The node with other permission bits. -/
def withMode (mode : Nat) : HostNode → HostNode
  | .directory _ => .directory mode
  | .file _ content => .file mode content

/-- The number of 512-byte blocks that a node takes up; space is given out by the page. -/
def blocks : HostNode → Nat
  | .directory _ => 8
  | .file _ content => (content.length + 4095) / 4096 * 8

end HostNode

/-- What the user may do with a node.  The right to search is one to use the names in a directory.
Nothing is said about where rights come from, since ownership, the groups of the user and the way in
which the volume is mounted all play a part. -/
structure Rights where
  read : Bool
  write : Bool
  search : Bool
  deriving DecidableEq, Repr

namespace Rights

/-- All rights, as a privileged user has them. -/
def full : Rights := ⟨true, true, true⟩

def none : Rights := ⟨false, false, false⟩

end Rights

/-- The figures of the volume behind the host's files. -/
structure Volume where
  fragmentSize : Nat
  blocksFree : Nat
  blocksAvailable : Nat
  files : Nat
  filesFree : Nat
  nameMax : Nat
  deriving DecidableEq, Repr

/-- The host's file system.  Nodes are kept by their key, the path from the root, and so is what the
user may do with them. -/
structure Host where
  nodes : Std.ExtTreeMap String HostNode
  volume : Volume
  rights : String → Rights

namespace Host

/-- The longest name the host accepts, in bytes. -/
def nameLimit : Nat := 255

/-- The longest path the host accepts, in bytes. -/
def pathLimit : Nat := 4095

/-- The permission bits of a file that another program creates. -/
def foreignMode : Nat := 0o644

/-- The permission bits of a file that a store creates. -/
def privateMode : Nat := 0o600

/-- Follow the segments of a path from a node on.  Whatever a segment leads out of has to be a
directory, also when the segment is empty.  If it is not empty, the user has to have the right to
search the directory. -/
def follow (host : Host) (here : String) : List (List Char) → Except Errno String
  | [] => .ok here
  | segment :: rest =>
    match host.nodes[here]? with
    | none => .error .noEntry
    | some (.file _ _) => .error .notDirectory
    | some (.directory _) =>
      if segment = [] then host.follow here rest
      else if !(host.rights here).search then .error .accessDenied
      else if segment = ['.'] then host.follow here rest
      else if segment = ['.', '.'] then host.follow ((Key.parent? here).getD "/") rest
      else if nameLimit < (String.ofList segment).utf8ByteSize then .error .nameTooLong
      else
        let next := Key.childPrefix here ++ String.ofList segment
        if next ∈ host.nodes then host.follow next rest else .error .noEntry

/-- The key of the node that a path leads to. -/
def resolve (host : Host) (path : String) : Except HostError String :=
  if path.toList.contains '\x00' then .error .nulInPath
  else if path.isEmpty then .error (.os .noEntry)
  else if pathLimit < path.utf8ByteSize then .error (.os .nameTooLong)
  else
    let (first, rest) := Key.segments path.toList
    (host.follow "/" (first :: rest)).mapError .os

/-! ## Looking -/

/-- The node that a path leads to. -/
def node (host : Host) (path : String) : Except HostError HostNode := do
  let key ← host.resolve path
  match host.nodes[key]? with
  | some found => .ok found
  | none => .error (.os .noEntry)

/-- Whether a path leads to a node. -/
def present (host : Host) (path : String) : Bool :=
  (host.node path).isOk

/-- What the user may do with the node that a path leads to: nothing if there is none. -/
def access (host : Host) (path : String) : Rights :=
  match host.resolve path with
  | .ok key => if key ∈ host.nodes then host.rights key else .none
  | .error _ => .none

/-- The content of a regular file, which the user has to have the right to read. -/
def read (host : Host) (path : String) : Except HostError Bytes := do
  let found ← host.node path
  if !(host.access path).read then .error (.os .accessDenied)
  match found with
  | .file _ content => .ok content
  | .directory _ => .error (.os .isDirectory)

/-- The names in a directory, in increasing order. -/
def list (host : Host) (path : String) : Except HostError (List String) := do
  let key ← host.resolve path
  let start := Key.childPrefix key
  .ok ((host.nodes.keys.filter fun k =>
    k != key && Key.startsWith k start && (Key.parent? k).getD "/" == key).map Key.fileName)

/-! ## Replacing a file -/

/-- The host with a node in place of whatever a key held.  It is the user's own, with all rights. -/
def put (host : Host) (key : String) (node : HostNode) : Host :=
  { host with
    nodes := host.nodes.insert key node
    rights := fun other => if other = key then .full else host.rights other }

/-- The key that a path would create: the directory of the path has to exist, with the rights to
search it and to write in it, and the last name must be one that a file can have. -/
def target (host : Host) (path : String) : Except HostError String := do
  if path.toList.contains '\x00' then .error .nulInPath
  let some last := (HostPath.names path).getLast? | .error (.os .busy)
  let directory ← host.resolve ((HostPath.parent? path).getD "/")
  match host.nodes[directory]? with
  | some (.directory _) =>
    if !((host.rights directory).search && (host.rights directory).write) then
      .error (.os .accessDenied)
    else if last = ['.', '.'] then .error (.os .busy)
    else if nameLimit < (String.ofList last).utf8ByteSize then .error (.os .nameTooLong)
    else .ok (Key.childPrefix directory ++ String.ofList last)
  | _ => .error (.os .notDirectory)

/-- Put a complete new file in the place of an old one.  An existing file keeps its permission
bits, a new one gets `privateMode`.  A directory cannot be replaced, and a path that ends with a
slash does not name a file. -/
def replaceFile (host : Host) (path : String) (content : Bytes) : Except HostError Host := do
  if path.isEmpty then .error (.os .noEntry)
  let key ← host.target path
  if HostPath.endsWithSlash path then .error (.os .notDirectory)
  match host.nodes[key]? with
  | some (.directory _) => .error (.os .isDirectory)
  | some (.file mode _) => .ok (host.put key (.file mode content))
  | none => .ok (host.put key (.file privateMode content))

/-! ## Other programs -/

/-- Write a file as another program does: an existing file keeps its permission bits. -/
def write (host : Host) (path : String) (content : Bytes) : Except HostError Host := do
  let key ← host.target path
  match host.nodes[key]? with
  | some (.directory _) => .error (.os .isDirectory)
  | some (.file mode _) => .ok (host.put key (.file mode content))
  | none => .ok (host.put key (.file foreignMode content))

/-- Create a directory. -/
def makeDirectory (host : Host) (path : String) : Except HostError Host := do
  let key ← host.target path
  if key ∈ host.nodes then .error (.os .alreadyExists)
  .ok (host.put key (.directory 0o755))

/-- Remove a file, or a directory with everything below it. -/
def remove (host : Host) (path : String) : Except HostError Host := do
  let key ← host.resolve path
  .ok { host with nodes := host.nodes.filter fun k _ => k != key && !Key.isBelow k key }

/-- Copy a regular file's content and permission bits. -/
def copy (host : Host) (source target : String) : Except HostError Host := do
  let .file mode content ← host.node source | .error (.os .invalid)
  let host ← host.write target content
  let key ← host.resolve target
  .ok (host.put key (.file mode content))

/-- Set the permission bits of a node. -/
def changeMode (host : Host) (path : String) (mode : Nat) : Except HostError Host := do
  let key ← host.resolve path
  match host.nodes[key]? with
  | some found => .ok (host.put key (found.withMode (mode &&& 0o7777)))
  | none => .error (.os .noEntry)

/-- A host that holds nothing but the directories on the way to one directory, with all rights. -/
def bare (volume : Volume) (directory : String) : Host :=
  let names := HostPath.names directory
  let keys := (List.range (names.length + 1)).map fun n =>
    String.ofList (Key.render (names.take n))
  ⟨keys.foldl (fun nodes key => nodes.insert key (.directory 0o755)) ∅, volume, fun _ => .full⟩

end Host

end Strongbox
