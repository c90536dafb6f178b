import Std.Data.ExtTreeMap
import Std.Data.ExtTreeSet
import Strongbox.Engine.Request

/-!
# The recording engine

A storage engine for trying out whatever lies above one.  It holds no files: it writes down every
request and answers with codes that were laid out for it.

* `Recording.note` is what is written down for a request.
* `Recording.engine` is the engine.
-/

namespace Strongbox

/-- What a recording engine was told and what it has seen. -/
structure Recording where
  /-- The requests seen so far, latest first. -/
  calls : List String
  /-- The code for every later request of a name; the code is zero where none is given. -/
  results : Std.ExtTreeMap String Int
  /-- The paths that are directories. -/
  directories : Std.ExtTreeSet String
  /-- The names in every directory. -/
  entries : List String
  /-- Whether credentials are refused. -/
  rejects : Bool
  openHandles : Nat
  /-- The handles of threads that are made up. -/
  extraInstances : Nat
  nextId : UInt64
  /-- The host that the layers above the engine look at. -/
  host : Host

namespace Recording

/-- A recording engine that has seen nothing. -/
def onHost (host : Host) : Recording :=
  ⟨[], ∅, ∅, [], false, 0, 0, 1, host⟩

/-- Whether a time is going to be set. -/
def timeNote : Option Time → String
  | some _ => "set"
  | none => "keep"

/-- The name of a change. -/
def changeName : Change → String
  | .create .. => "create"
  | .mkdir .. => "mkdir"
  | .symlink .. => "symlink"
  | .link .. => "link"
  | .unlink .. => "unlink"
  | .rmdir .. => "rmdir"
  | .rename .. => "rename"
  | .openFile .. => "open"
  | .write .. => "write"
  | .truncate .. => "truncate"
  | .chmod .. => "chmod"
  | .utimens .. => "utimens"

/-- The name of a request. -/
def name : Request → String
  | .openContainer _ (.password _) => "open_with_password"
  | .openContainer _ (.key _) => "open_with_key"
  | .closeHandle _ => "close"
  | .instanceCount => "instance_count"
  | .change change => changeName change
  | .fsync _ => "fsync"
  | .read .. => "read"
  | .getattr _ => "getattr"
  | .access .. => "access"
  | .isDir _ => "is_dir"
  | .readdir _ => "readdir"
  | .beginTransaction => "begin_transaction"
  | .completeTransaction _ => "complete_transaction"

/-- The arguments of a change that are written down. -/
def changeArguments : Change → List String
  | .create path mode | .mkdir path mode | .chmod path mode => [path, FileStat.octal mode]
  | .symlink target path => [target, path]
  | .link source target | .rename source target => [source, target]
  | .unlink path | .rmdir path | .openFile path _ => [path]
  | .write path _ offset => [path, toString offset]
  | .truncate path length => [path, toString length]
  | .utimens path atime mtime =>
    [path, s!"atime={timeNote atime}", s!"mtime={timeNote mtime}"]

/-- The arguments of a request that are written down.  No secret is one of them. -/
def arguments : Request → List String
  | .openContainer .. | .closeHandle _ | .instanceCount | .beginTransaction => []
  | .change change => changeArguments change
  | .fsync path | .getattr path | .access path _ | .isDir path | .readdir path => [path]
  | .read path _ offset => [path, toString offset]
  | .completeTransaction commit => [toString commit]

/-- A request in one line: its name and arguments. -/
def note (request : Request) : String :=
  " ".intercalate (name request :: arguments request)

/-- Write a request down.  Counting handles leaves no note. -/
def record (request : Request) (r : Recording) : Recording :=
  match request with
  | .instanceCount => r
  | _ => { r with calls := note request :: r.calls }

/-- The code for requests of a name. -/
def resultFor (r : Recording) (name : String) : Int :=
  (r.results[name]?).getD 0

/-- The attributes of any path. -/
def attributes (r : Recording) (path : String) : FileStat :=
  { FileStat.blank with
    mode :=
      if path ∈ r.directories then FileKind.directory.modeBits ||| 0o755
      else FileKind.file.modeBits ||| 0o644
    nlink := 1 }

/-- Give out a handle. -/
def issue (r : Recording) : Handle × Recording :=
  (⟨r.nextId⟩, { r with openHandles := r.openHandles + 1, nextId := r.nextId + 1 })

/-- The reply to a request.  A write without a code of its own takes everything. -/
def reply (request : Request) (r : Recording) : request.Reply × Recording :=
  match request with
  | .openContainer _ _ =>
    if r.rejects then (none, r)
    else
      let (handle, r) := r.issue
      (some handle, r)
  | .closeHandle _ => ((), { r with openHandles := r.openHandles - 1 })
  | .instanceCount => (r.openHandles + r.extraInstances, r)
  | .change change =>
    let code := r.resultFor (changeName change)
    ((if code = 0 then change.taken else code : Int), r)
  | .fsync _ => (r.resultFor "fsync", r)
  | .read _ _ _ => ((r.resultFor "read", []), r)
  | .getattr path => ((r.resultFor "getattr", r.attributes path), r)
  | .access _ _ => (r.resultFor "access", r)
  | .isDir path => (decide (path ∈ r.directories), r)
  | .readdir _ =>
    let code := r.resultFor "readdir"
    ((code, if code = 0 then "." :: ".." :: r.entries else []), r)
  | .beginTransaction => (r.resultFor "begin_transaction", r)
  | .completeTransaction _ => (r.resultFor "complete_transaction", r)

/-- The engine that writes requests down. -/
def engine : StorageEngine Recording where
  respond _ request r := reply request (r.record request)
  view r := ⟨r.host, 0⟩

end Recording

end Strongbox
