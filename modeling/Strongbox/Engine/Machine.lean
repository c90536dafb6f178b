import Strongbox.Engine.Container

/-!
# Answering requests

A `Machine` is a container engine together with the host that its container file lies on.

* `Machine.answer` answers a request at a given moment.
* `Timeline.engine` is the machine as a storage engine: the moments of its calls are laid out ahead.
-/

namespace Strongbox

/-- An engine together with the host that its container file lies on. -/
structure Machine where
  engine : ContainerEngine
  host : Host

namespace Machine

/-- Open a container with a credential and give out a handle. -/
def openContainer (suite : CipherSuite) (moment : Moment) (thread : Thread) (path : String)
    (credential : Credential) (m : Machine) : Except EngineError (Handle × Machine) := do
  let path := HostPath.absoluteOrSelf path
  let (handle, registry) := m.engine.registry.issue thread
  match m.engine.opened with
  | some c =>
    ContainerEngine.join suite c path credential
    .ok (handle, { m with engine := { m.engine with registry := registry } })
  | none =>
    let (c, host) ← ContainerEngine.unlock suite m.engine.config moment m.host path credential
    .ok (handle, ⟨{ m.engine with registry := registry, opened := some c }, host⟩)

/-- Give a handle back.  With the last one an open transaction is rolled back and the container is
saved, if that is possible, and closed. -/
def closeHandle (suite : CipherSuite) (moment : Moment) (handle : Handle) (m : Machine) :
    Machine :=
  match m.engine.registry.close handle with
  | (none, _) => m
  | (some (_ + 1), registry) => { m with engine := { m.engine with registry := registry } }
  | (some 0, registry) =>
    let closed := { m.engine with registry := registry.clearImplicit, opened := none }
    match m.engine.opened with
    | none => { m with engine := closed }
    | some c =>
      match c.rollback.persist suite moment m.host with
      | .ok host => ⟨closed, host⟩
      | .error _ => { m with engine := closed }

/-- Look at the tree of the open container. -/
def inspect (thread : Thread) (m : Machine) (look : Tree → Except Errno α) :
    Except Errno α × Machine :=
  match m.engine.opened with
  | none => (.error .noDevice, m)
  | some c => (look c.tree, { m with engine := m.engine.touch thread })

/-- Look at what a path names. -/
def inspectPath (thread : Thread) (m : Machine) (path : String)
    (look : Tree → String → Except Errno α) : Except Errno α × Machine :=
  match Key.normalize path with
  | .error code => (.error code, m)
  | .ok key => m.inspect thread fun tree => look tree key

/-- Work on the open container and on the host. -/
def update (thread : Thread) (m : Machine)
    (work : OpenContainer → Host → Except Errno Unit × OpenContainer × Host) :
    Except Errno Unit × Machine :=
  match m.engine.opened with
  | none => (.error .noDevice, m)
  | some c =>
    let (outcome, c, host) := work c m.host
    (outcome, ⟨{ m.engine.touch thread with opened := some c }, host⟩)

/-- Carry out a change. -/
def change (suite : CipherSuite) (moment : Moment) (thread : Thread) (change : Change)
    (m : Machine) : Except Errno Unit × Machine :=
  match change.resolve with
  | .error code => (.error code, m)
  | .ok resolved => m.update thread fun c host => c.change suite moment host resolved

/-- Save what was written to files. -/
def fsync (suite : CipherSuite) (moment : Moment) (thread : Thread) (path : String)
    (m : Machine) : Except Errno Unit × Machine :=
  match Key.normalize path with
  | .error code => (.error code, m)
  | .ok key =>
    m.update thread fun c host =>
      if c.tree.contains key then c.flush suite moment host else (.error .noEntry, c, host)

/-- Complete a transaction, by keeping or by giving up what it changed. -/
def complete (suite : CipherSuite) (moment : Moment) (thread : Thread) (keep : Bool)
    (m : Machine) : Except Errno Unit × Machine :=
  m.update thread fun c host =>
    if keep then c.commit suite moment host
    else if c.transaction.isNone then (.error .invalid, c, host)
    else (.ok (), c.rollback, host)

/-- The reply to a request whose outcome is only its code. -/
def coded (value : Nat) (answer : Except Errno Unit × Machine) : Int × Machine :=
  (resultCode (answer.1.map fun _ => value), answer.2)

/-- The reply to a request that shows something; a failure shows `blank`. -/
def shown (blank : α) (value : α → Nat) (answer : Except Errno α × Machine) :
    (Int × α) × Machine :=
  match answer with
  | (.ok found, m) => ((value found, found), m)
  | (.error code, m) => ((-code.number, blank), m)

/-- Answer a request. -/
def answer (suite : CipherSuite) (moment : Moment) (thread : Thread) (request : Request)
    (m : Machine) : request.Reply × Machine :=
  match request with
  | .openContainer path credential =>
    match m.openContainer suite moment thread path credential with
    | .ok (handle, m) => (some handle, m)
    | .error _ => (none, m)
  | .closeHandle handle => ((), m.closeHandle suite moment handle)
  | .instanceCount => (m.engine.registry.count, m)
  | .change change => coded change.taken (m.change suite moment thread change)
  | .fsync path => coded 0 (m.fsync suite moment thread path)
  | .read path count offset =>
    shown [] List.length (m.inspectPath thread path fun tree key => tree.read key count offset)
  | .getattr path => shown .blank (fun _ => 0) (m.inspectPath thread path Tree.getattr)
  | .access path mode =>
    coded 0 (m.inspectPath thread path fun tree key => tree.access key mode)
  | .isDir path =>
    match m.inspectPath thread path fun tree key => .ok (tree.isDir key) with
    | (.ok found, m) => (found, m)
    | (.error _, m) => (false, m)
  | .readdir path => shown [] (fun _ => 0) (m.inspectPath thread path Tree.readdir)
  | .beginTransaction => coded 0 (m.update thread fun c host => (.ok (), c.begin, host))
  | .completeTransaction keep => coded 0 (m.complete suite moment thread keep)

/-- The bytes and names that the open container holds. -/
def extent (m : Machine) : Nat :=
  match m.engine.opened with
  | none => 0
  | some c =>
    c.tree.entries.size + c.tree.inodes.foldl (fun total _ inode => total + inode.kind.size) 0

end Machine

/-! ## A run of calls -/

/-- A machine with the moments of the calls that lie before it. -/
structure Timeline where
  machine : Machine
  /-- The moment of each call. -/
  moments : Nat → Moment
  /-- The number of calls made so far. -/
  calls : Nat

namespace Timeline

/-- The container engine, for which every request is one call. -/
def engine (suite : CipherSuite) : StorageEngine Timeline where
  respond thread request line :=
    let (reply, machine) :=
      line.machine.answer suite (line.moments line.calls) thread request
    (reply, { line with machine := machine, calls := line.calls + 1 })
  view line := ⟨line.machine.host, line.machine.extent⟩

end Timeline

end Strongbox
