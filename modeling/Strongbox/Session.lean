import Strongbox.Container.Location
import Strongbox.Engine.Request
import Strongbox.Text.Quoted

/-!
# Sessions

A session works with one container over a storage engine.  It knows the path of the container and,
as long as the container is mounted, holds one handle of the engine, its *marker*.

* `Session.setPath`, `Session.createContainer`, `Session.mount` and `Session.unmount` are the
  lifecycle of a session.  One that fails leaves the session as it was.
* `Session.require` is the gate in front of every other call: it refuses whatever needs a mounted
  container while there is none.
-/

namespace Strongbox

/-! ## Calls -/

/-- A call that may fail and makes requests on its way. -/
abbrev Call := ExceptT Fault Script

namespace Call

/-- Look at the host. -/
def host : Call Host :=
  ExceptT.lift (Script.view.bind fun view => .done view.host)

/-- Make a request. -/
def request (request : Request) : Call request.Reply :=
  ExceptT.lift (Script.request request)

/-- The value of a result code, or a fault of an operation. -/
def check (operation : String) (code : Int) : Call Nat :=
  ExceptT.mk (.done (Strongbox.check operation code))

/-- Carry out a change and check its code. -/
def change (operation : String) (change : Change) : Call Nat := do
  check operation (← request (.change change))

end Call

/-! ## The state of a session -/

/-- Whether a container is mounted. -/
inductive MountState where
  | unmounted
  | mounted
  deriving DecidableEq, Repr

def MountState.text : MountState → String
  | .unmounted => "unmounted"
  | .mounted => "mounted"

/-- The state of a session.  The marker is held exactly as long as the container is mounted. -/
structure Session where
  containerPath : Option String
  marker : Option Handle
  deriving DecidableEq, Repr

/-- A call that may change the session. -/
abbrev SessionCall := ExceptT Fault (StateT Session Script)

namespace Session

/-- A session without a container path. -/
def blank : Session := ⟨none, none⟩

def isMounted (s : Session) : Bool :=
  s.marker.isSome

def state (s : Session) : MountState :=
  if s.isMounted then .mounted else .unmounted

/-- The session spelled out. -/
def debugText (s : Session) : String :=
  let path := match s.containerPath with
    | some path => s!"Some({Text.quoted path})"
    | none => "None"
  let marker := match s.marker with
    | some handle => s!"Some(EngineHandle({handle.id}))"
    | none => "None"
  s!"VirtualFileSystem \x7b container_path: {path}, marker: {marker}, .. \x7d"

/-- Refuse an operation while nothing is mounted. -/
def require (s : Session) (operation : String) : Call Unit :=
  if s.isMounted then pure () else throw (.illegalState (.notMounted operation))

/-- The number of handles that the engine counts, the marker included, and zero while nothing is
mounted. -/
def liveHandles (s : Session) : Script Nat :=
  if s.isMounted then Script.request .instanceCount else pure 0

/-! ## Lifecycle -/

/-- The path of the container, which has to be set before a container is opened. -/
def configuredPath (s : Session) : Except Fault String :=
  match s.containerPath with
  | some path => .ok path
  | none => .error (.illegalState .noPath)

/-- Refuse a lifecycle call while a container is mounted. -/
def requireUnmounted (misuse : Misuse) (s : Session) : Except Fault Unit :=
  if s.isMounted then .error (.illegalState misuse) else .ok ()

/-- A check as part of a call. -/
def ensure (outcome : Except Fault α) : SessionCall α :=
  ExceptT.mk (pure outcome)

/-- A call that changes nothing as part of one that may. -/
def within (call : Call α) : SessionCall α :=
  ExceptT.mk (StateT.lift call.run)

/-- Choose the container.  Its parent directory has to exist. -/
def setPath (path : String) : SessionCall Unit := do
  let s ← get
  ensure (s.requireUnmounted .pathWhileMounted)
  let host ← within Call.host
  ensure (Location.validate host path)
  let resolved ← ensure (Location.absolute path)
  set { s with containerPath := some resolved }

/-- Create the container, or check that the credential opens it, and leave it unmounted. -/
def createContainer (credential : Credential) : SessionCall Unit := do
  let s ← get
  ensure (s.requireUnmounted .createWhileMounted)
  let path ← ensure s.configuredPath
  ensure credential.validate
  match ← within (Call.request (.openContainer path credential)) with
  | some (handle : Handle) => within (Call.request (.closeHandle handle))
  | none =>
    let host ← within Call.host
    ensure (Location.validateReadWrite host path)
    throw (.failed "create_new_container" .ioFailure)

/-- Mount the container, which has to exist. -/
def mount (credential : Credential) : SessionCall Unit := do
  let s ← get
  ensure (s.requireUnmounted .alreadyMounted)
  let path ← ensure s.configuredPath
  ensure credential.validate
  let host ← within Call.host
  ensure (Location.validateReadWrite host path)
  match ← within (Call.request (.openContainer path credential)) with
  | some (handle : Handle) => set { s with marker := some handle }
  | none => throw (.invalidArgument (.badCredential path))

/-- Unmount the container, unless somebody else works with it. -/
def unmount : SessionCall Unit := do
  let s ← get
  match s.marker with
  | none => throw (.illegalState .nothingMounted)
  | some marker =>
    let count : Nat ← within (Call.request .instanceCount)
    if 1 < count then throw (.illegalState (.threadsActive (count - 1)))
    within (Call.request (.closeHandle marker))
    set { s with marker := none }

/-- The end of a session, which gives back the marker if it still holds it. -/
def drop (s : Session) : Script Unit :=
  match s.marker with
  | some marker => Script.request (.closeHandle marker)
  | none => pure ()

/-! ## Transactions -/

/-- Put all saves off until the transaction is completed. -/
def beginTransaction (s : Session) : Call Unit := do
  s.require "begin_transaction"
  discard <| Call.check "begin_transaction" (← Call.request .beginTransaction)

/-- Keep what was changed since the transaction began. -/
def completeTransaction (s : Session) : Call Unit := do
  s.require "complete_transaction"
  discard <| Call.check "complete_transaction" (← Call.request (.completeTransaction true))

/-- Give up what was changed since the outermost transaction began. -/
def rollbackTransaction (s : Session) : Call Unit := do
  s.require "rollback_transaction"
  discard <| Call.check "rollback_transaction" (← Call.request (.completeTransaction false))

end Session

end Strongbox
