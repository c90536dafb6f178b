import Strongbox.Container.Frame
import Strongbox.Engine.Request
import Strongbox.Text.Quoted
import Strongbox.Tree.InPlace
import Strongbox.Tree.Payload

/-!
# The container engine

The storage engine behind a session keeps one container open.  Its tree is held in memory and the
whole container file is replaced when the tree has to be saved: after each change of names and
attributes, and for file data on demand.  A transaction puts all saves off to its end.

* `OpenContainer` is a container in memory, and `OpenContainer.persist` writes it out.
* `ContainerEngine.unlock` opens a container and `ContainerEngine.join` shares the open one.

A call that fails leaves the container in memory and its file as they were.  What the world
contributes to a call, such as the time and random bytes, comes in a `Moment`.
-/

namespace Strongbox

/-! ## Failures -/

/-- Why a container could not be opened or written. -/
inductive EngineError where
  | frame (error : FrameError)
  | crypto (error : CryptoError)
  /-- The payload is no tree, or the tree has no payload. -/
  | corrupt
  | credentialMismatch (expected actual : CredentialKind)
  | missingCost
  | alreadyOpen (path : String)
  deriving DecidableEq, Repr

def EngineError.message : EngineError → String
  | .frame error => error.message
  | .crypto error => error.message
  | .corrupt => "Corrupt container payload"
  | .credentialMismatch expected actual =>
    s!"Container was created with a {expected.title} credential, got {actual.title}"
  | .missingCost => "Password container header is missing its key derivation parameters"
  | .alreadyOpen path => s!"Another container is already open: {path}"

/-! ## State -/

/-- What the world contributes to one call. -/
structure Moment where
  stamp : Stamp
  /-- Random bytes for the salt of a new container. -/
  salt : Bytes
  /-- A nonce that was not used before. -/
  nonce : Nonce
  /-- Why the host will not replace a file now, if it will not. -/
  refusal : Option HostError

/-- A transaction: how often it was begun, and the tree at its outermost beginning. -/
structure Transaction where
  /-- A 32-bit counter of the engine, which nothing keeps from overflowing.  It is a plain number
  here, and stands for the counter as long as it is in its range. -/
  depth : Nat
  snapshot : Tree
  deriving DecidableEq

/-- A container in memory. -/
structure OpenContainer where
  path : String
  credential : CredentialKind
  salt : Option Bytes
  cost : Option Scrypt.Params
  key : ContainerKey
  tree : Tree
  transaction : Option Transaction
  /-- Whether file data was written since the last save. -/
  dirty : Bool
  deriving DecidableEq

/-- An engine with at most one container open. -/
structure ContainerEngine where
  config : EngineConfig
  registry : Registry
  opened : Option OpenContainer
  deriving DecidableEq

/-! ## Saving -/

namespace OpenContainer

/-- The header of the next container file. -/
def header (c : OpenContainer) (nonce : Nonce) : Header :=
  ⟨c.credential, c.salt, c.cost, nonce.bytes⟩

/-- Replace the container file by one with a ciphertext, unless the host refuses it. -/
def writeOut (moment : Moment) (host : Host) (c : OpenContainer) (ciphertext : Bytes) :
    Except FrameError Host :=
  match moment.refusal with
  | some refusal => .error (.host refusal)
  | none => Frame.write host c.path (c.header moment.nonce).encode ciphertext

/-- Replace the container file by one that holds the tree. -/
def persist (suite : CipherSuite) (moment : Moment) (host : Host) (c : OpenContainer) :
    Except EngineError Host := do
  let some payload := c.tree.encode | .error .corrupt
  let headerBytes := (c.header moment.nonce).encode
  let ciphertext ← (suite.lock c.key moment.nonce headerBytes payload).mapError .crypto
  (c.writeOut moment host ciphertext).mapError .frame

/-- Save, so that nothing is pending any more. -/
def save (suite : CipherSuite) (moment : Moment) (host : Host) (c : OpenContainer) :
    Except Errno Unit × OpenContainer × Host :=
  match c.persist suite moment host with
  | .ok saved => (.ok (), { c with dirty := false }, saved)
  | .error _ => (.error .ioFailure, c, host)

/-- Carry out a change whose paths are keys, and save if it has to be.  Where the save fails, the
tree is put back as it was. -/
def change (suite : CipherSuite) (moment : Moment) (host : Host) (c : OpenContainer)
    (change : Change) : Except Errno Unit × OpenContainer × Host :=
  let (outcome, tree) := change.perform moment.stamp c.tree
  let changed := { c with tree := tree }
  match outcome with
  | .error code => (.error code, changed, host)
  | .ok () =>
    match change.saving, c.transaction with
    | .never, _ => (.ok (), changed, host)
    | .later, _ => (.ok (), { changed with dirty := true }, host)
    | .atOnce, some _ => (.ok (), changed, host)
    | .atOnce, none =>
      match changed.save suite moment host with
      | (.ok (), saved, host) => (.ok (), saved, host)
      | (.error code, unsaved, host) => (.error code, { unsaved with tree := c.tree }, host)

/-- Save what was written to files, unless a transaction puts it off. -/
def flush (suite : CipherSuite) (moment : Moment) (host : Host) (c : OpenContainer) :
    Except Errno Unit × OpenContainer × Host :=
  if c.dirty ∧ c.transaction = none then c.save suite moment host else (.ok (), c, host)

/-- Begin a transaction, or go one level deeper. -/
def begin (c : OpenContainer) : OpenContainer :=
  match c.transaction with
  | some ⟨depth, snapshot⟩ => { c with transaction := some ⟨depth + 1, snapshot⟩ }
  | none => { c with transaction := some ⟨1, c.tree⟩ }

/-- Give up whatever a transaction changed. -/
def rollback (c : OpenContainer) : OpenContainer :=
  match c.transaction with
  | some ⟨_, snapshot⟩ => { c with tree := snapshot, transaction := none }
  | none => c

/-- Complete one level of a transaction.  The outermost level saves, and is rolled back where that
fails. -/
def commit (suite : CipherSuite) (moment : Moment) (host : Host) (c : OpenContainer) :
    Except Errno Unit × OpenContainer × Host :=
  match c.transaction with
  | none => (.error .invalid, c, host)
  | some ⟨depth, snapshot⟩ =>
    if 1 < depth then (.ok (), { c with transaction := some ⟨depth - 1, snapshot⟩ }, host)
    else
      match ({ c with transaction := none } : OpenContainer).save suite moment host with
      | (.ok (), saved, host) => (.ok (), saved, host)
      | (.error code, unsaved, host) => (.error code, { unsaved with tree := snapshot }, host)

end OpenContainer

/-! ## Opening -/

namespace ContainerEngine

def ofConfig (config : EngineConfig) : ContainerEngine :=
  ⟨config, .empty, none⟩

/-- The key of a credential.  A password needs a salt and cost parameters. -/
def deriveKey (suite : CipherSuite) (credential : Credential) (salt : Option Bytes)
    (cost : Option Scrypt.Params) : Except EngineError ContainerKey :=
  match credential, salt, cost with
  | .key bytes, _, _ => (ContainerKey.ofRaw bytes).mapError .crypto
  | .password text, some salt, some cost => (suite.keyOf text salt cost).mapError .crypto
  | .password _, _, _ => .error .missingCost

/-- Refuse a credential of the wrong kind. -/
def requireKind (expected actual : CredentialKind) : Except EngineError Unit :=
  if expected = actual then .ok () else .error (.credentialMismatch expected actual)

/-- The container in a container file. -/
def unlockFrame (suite : CipherSuite) (path : String) (credential : Credential) (frame : Frame) :
    Except EngineError OpenContainer := do
  let header := frame.header
  requireKind header.credential credential.kind
  let key ← deriveKey suite credential header.salt header.cost
  let nonce ← (Frame.nonce header).mapError .frame
  let payload ← (suite.unlock key nonce frame.headerBytes frame.ciphertext).mapError .crypto
  let some tree := Tree.decode payload | .error .corrupt
  .ok ⟨path, header.credential, header.salt, header.cost, key, tree, none, false⟩

/-- A new container, and the host with its file. -/
def create (suite : CipherSuite) (config : EngineConfig) (moment : Moment) (host : Host)
    (path : String) (credential : Credential) : Except EngineError (OpenContainer × Host) := do
  let (salt, cost) := match credential with
    | .password _ => (some moment.salt, some config.cost)
    | .key _ => (none, none)
  let key ← deriveKey suite credential salt cost
  let container : OpenContainer :=
    ⟨path, credential.kind, salt, cost, key, .empty moment.stamp, none, false⟩
  .ok (container, ← container.persist suite moment host)

/-- Open the container at a path, or make it if there is none yet. -/
def unlock (suite : CipherSuite) (config : EngineConfig) (moment : Moment) (host : Host)
    (path : String) (credential : Credential) : Except EngineError (OpenContainer × Host) := do
  match ← (Frame.read host path).mapError .frame with
  | some frame => .ok (← unlockFrame suite path credential frame, host)
  | none => create suite config moment host path credential

/-- Require that a credential fits the container that is open already. -/
def join (suite : CipherSuite) (c : OpenContainer) (path : String) (credential : Credential) :
    Except EngineError Unit := do
  if !HostPath.same c.path path then .error (.alreadyOpen c.path)
  requireKind c.credential credential.kind
  let key ← deriveKey suite credential c.salt c.cost
  if key ≠ c.key then .error (.crypto .authenticationFailed)

/-- The engine after a thread has worked with the container. -/
def touch (engine : ContainerEngine) (thread : Thread) : ContainerEngine :=
  { engine with registry := engine.registry.touch thread }

/-- The engine after a thread has ended. -/
def exit (engine : ContainerEngine) (thread : Thread) : ContainerEngine :=
  { engine with registry := engine.registry.exit thread }

/-- The path of the open container. -/
def openPath (engine : ContainerEngine) : Option String :=
  engine.opened.map (·.path)

/-- The engine spelled out. -/
def debugText (engine : ContainerEngine) : String :=
  let cost := engine.config.cost
  let shown := match engine.openPath with
    | some path => s!"Some({Text.quoted path})"
    | none => "None"
  s!"ContainerEngine \x7b config: EngineConfig \x7b kdf: KdfParams \x7b log_n: {cost.logN}, "
    ++ s!"r: {cost.r}, p: {cost.p} \x7d \x7d, open: {shown}, "
    ++ s!"instances: {engine.registry.count}, .. \x7d"

end ContainerEngine

end Strongbox
