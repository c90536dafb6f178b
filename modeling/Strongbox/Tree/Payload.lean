import Strongbox.Bytes.Base64
import Strongbox.Json.Record
import Strongbox.Tree

/-!
# Payloads

The payload of a container is its tree as a JSON text.

* `Tree.encode` writes a tree.  It fails only if some time lies before the epoch, since times are
  written as seconds and nanoseconds from there on.
* `Tree.decode` reads a tree, also one that other software wrote.
-/

namespace Strongbox

/-! ## Times -/

namespace Time

/-- The latest second that a time can have. -/
def lastSecond : Nat := 9223372036854775807

/-- The JSON record of a time that does not lie before the epoch. -/
def toJson (t : Time) : Json :=
  .object [(Json.ascii "secs_since_epoch", .ofNat t.seconds.toNat),
    (Json.ascii "nanos_since_epoch", .ofNat t.nanos)]

/-- Nanoseconds beyond a second carry over.  No other field is allowed. -/
def ofJson? (json : Json) : Option Time := do
  let [some seconds, some nanos] ←
    Json.record? .refused ["secs_since_epoch", "nanos_since_epoch"] json | none
  let time := ofParts (← seconds.nat? UInt64.size) (← nanos.nat? UInt32.size)
  if time.seconds ≤ lastSecond then some time else none

end Time

/-! ## Inodes -/

namespace NodeKind

/-- A kind is an object that names it, with the fields that belong to it. -/
def toJson : NodeKind → Json
  | .directory => .object [(Json.ascii "type", .string (Json.ascii "directory"))]
  | .file data =>
    .object [(Json.ascii "type", .string (Json.ascii "file")),
      (Json.ascii "data", .string (Base64.encode data))]
  | .symlink target =>
    .object [(Json.ascii "type", .string (Json.ascii "symlink")),
      (Json.ascii "target", .ofText target)]

/-- How deep the fields beside the name of a kind may nest, given that four levels stand around
them. -/
def depthLimit : Nat := 123

/-- The fields of a kind without the one that names it. -/
inductive Rest where
  | named (fields : List (String × Json))
  | listed (items : List Json)

/-- The kind with a name and further fields.  Fields that the kind does not have are ignored, but
a list must not be longer than the kind needs. -/
def ofRest? (name : String) (rest : Rest) : Option NodeKind :=
  if name = "directory" then
    match rest with
    | .named _ | .listed [] => some .directory
    | .listed _ => none
  else do
    let value ← match rest with
      | .named fields =>
        match Json.named (if name = "file" then "data" else "target") fields with
        | [value] => some value
        | _ => none
      | .listed [value] => some value
      | .listed _ => none
    if name = "file" then
      match value with
      | .string token => return .file (← Base64.decode (← Json.unescape token))
      | _ => none
    else if name = "symlink" then return .symlink (← value.text?)
    else none

/-- Read a kind.  Its name may stand anywhere among the fields, or first in an array. -/
def ofJson? : Json → Option NodeKind
  | .object fields => do
    let fields ← Json.namedFields? fields
    let [name] := Json.named "type" fields | none
    let others := fields.filter fun field => field.1 ≠ "type"
    if others.all fun field => field.2.isPlain && field.2.depth ≤ depthLimit then
      ofRest? (← name.text?) (.named others)
    else none
  | .array (name :: others) => do
    if others.all fun value => value.isPlain && value.depth ≤ depthLimit then
      ofRest? (← name.text?) (.listed others)
    else none
  | _ => none

end NodeKind

namespace Inode

/-- The names of the fields of an inode, in their order. -/
def fieldNames : List String :=
  ["kind", "perm", "uid", "gid", "nlink", "atime", "mtime", "ctime"]

/-- The JSON record of an inode. -/
def toJson (inode : Inode) : Json :=
  .object [(Json.ascii "kind", inode.kind.toJson), (Json.ascii "perm", .ofNat inode.perm),
    (Json.ascii "uid", .ofNat inode.uid), (Json.ascii "gid", .ofNat inode.gid),
    (Json.ascii "nlink", .ofNat inode.nlink), (Json.ascii "atime", inode.atime.toJson),
    (Json.ascii "mtime", inode.mtime.toJson), (Json.ascii "ctime", inode.ctime.toJson)]

def ofJson? (json : Json) : Option Inode := do
  let [some kind, some perm, some uid, some gid, some nlink, some atime, some mtime, some ctime] ←
    Json.record? .ignored fieldNames json | none
  some {
    kind := ← NodeKind.ofJson? kind
    perm := ← perm.nat? UInt32.size
    uid := ← uid.nat? UInt32.size
    gid := ← gid.nat? UInt32.size
    nlink := ← nlink.nat? UInt32.size
    atime := ← Time.ofJson? atime
    mtime := ← Time.ofJson? mtime
    ctime := ← Time.ofJson? ctime }

end Inode

/-! ## Trees -/

namespace Tree

/-- The JSON record of a tree, with both maps in increasing order. -/
def toJson (t : Tree) : Json :=
  .object [
    (Json.ascii "entries", .object (t.entries.toList.map fun (key, ino) =>
      (Json.escape (Bytes.ofText key), .ofNat ino))),
    (Json.ascii "inodes", .object (t.inodes.toList.map fun (ino, inode) =>
      (Json.decimal ino, inode.toJson))),
    (Json.ascii "next_ino", .ofNat t.nextIno)]

/-- The payload of a tree, if it can be written. -/
def encode (t : Tree) : Option Bytes :=
  if t.timesRepresentable then some t.toJson.render else none

/-- Read a map of keys; of two entries for one key the last counts. -/
def entriesOfJson? : Json → Option (Std.ExtTreeMap String Nat)
  | .object fields =>
    fields.foldlM
      (fun map (token, value) => do
        some (map.insert (← Json.tokenText? token) (← value.nat? UInt64.size)))
      ∅
  | _ => none

/-- Read a map of inode numbers, which are written as names. -/
def inodesOfJson? : Json → Option (Std.ExtTreeMap Nat Inode)
  | .object fields =>
    fields.foldlM
      (fun map (token, value) => do
        let ino ← (Json.natToken? token).filter (· < UInt64.size)
        some (map.insert ino (← Inode.ofJson? value)))
      ∅
  | _ => none

def ofJson? (json : Json) : Option Tree := do
  let [some entries, some inodes, some nextIno] ←
    Json.record? .ignored ["entries", "inodes", "next_ino"] json | none
  some {
    entries := ← entriesOfJson? entries
    inodes := ← inodesOfJson? inodes
    nextIno := ← nextIno.nat? UInt64.size }

/-- The tree of a payload. -/
def decode (payload : Bytes) : Option Tree :=
  (Json.parse payload).bind ofJson?

end Tree

end Strongbox
