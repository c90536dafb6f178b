import Strongbox.Host.Error
import Strongbox.Text.Quoted

/-!
# Faults

A `Fault` is a failed call on a session or on an open file.  It tells apart bad input, a call in the
wrong state of the session, a failure with an error number, and an operation that does not exist.
Only a failure with an error number has a cause, another fault that led to it.

* `check` turns a storage engine's result code into a value or a fault.
* `Fault.chain` lists a fault and its causes, outermost first.
* `FaultSlot` holds at most one fault back, as the cause of the next one.
-/

namespace Strongbox

/-! ## Reasons -/

/-- What is wrong with an argument. -/
inductive Complaint where
  | blankPath
  | unresolvedPath (path : String) (error : HostError)
  | noParent (path : String)
  | unreachable (path : String) (error : HostError)
  | notDirectory (path : String)
  | unreadable (path : String)
  | unwritable (path : String)
  | keyLength (length : Nat)
  | blankPassword
  | containerUnreadable (path : String)
  | containerUnwritable (path : String)
  | badCredential (path : String)
  /-- A caller's own words. -/
  | stated (text : String)
  deriving DecidableEq, Repr

/-- The length of a raw container key, in bytes. -/
def rawKeyLength : Nat := 32

def Complaint.message : Complaint → String
  | .blankPath => "container path must not be blank"
  | .unresolvedPath path error => s!"cannot resolve {path}: {error.message}"
  | .noParent path => s!"container path {path} has no parent directory"
  | .unreachable path error => s!"cannot stat {path}: {error.message}"
  | .notDirectory path => s!"{path} is not a directory"
  | .unreadable path => s!"{path} is not readable"
  | .unwritable path => s!"{path} is not writable"
  | .keyLength length => s!"key must be {rawKeyLength} bytes, got {length}"
  | .blankPassword => "password must not be blank"
  | .containerUnreadable path => s!"container {path} does not exist or is not readable"
  | .containerUnwritable path => s!"container {path} is not writable"
  | .badCredential path => s!"bad credential for container {path}"
  | .stated text => text

/-- Why a call does not fit the state of the session. -/
inductive Misuse where
  | notMounted (operation : String)
  | pathWhileMounted
  | noPath
  | createWhileMounted
  | alreadyMounted
  | nothingMounted
  | threadsActive (count : Nat)
  /-- A caller's own words. -/
  | stated (text : String)
  deriving DecidableEq, Repr

def Misuse.message : Misuse → String
  | .notMounted operation => s!"virtual filesystem is not mounted ({operation})"
  | .pathWhileMounted => "cannot change the container path while mounted"
  | .noPath => "no container path configured"
  | .createWhileMounted => "cannot create a container while mounted"
  | .alreadyMounted => "already mounted"
  | .nothingMounted => "not mounted"
  | .threadsActive count => s!"{count} threads still active"
  | .stated text => text

/-! ## Faults -/

/-- A failed call. -/
inductive Fault where
  | invalidArgument (reason : Complaint)
  | illegalState (reason : Misuse)
  | notImplemented (operation : String)
  /-- A failure with an error number. -/
  | failed (operation : String) (code : Errno)
  /-- A failure with an error number that another fault led to. -/
  | failedAfter (operation : String) (code : Errno) (cause : Fault)
  deriving DecidableEq, Repr

namespace Fault

/-- The fault with a cause.  Only a failure with an error number takes one. -/
def withCause (fault cause : Fault) : Fault :=
  match fault with
  | .failed operation code | .failedAfter operation code _ => .failedAfter operation code cause
  | other => other

/-- The fault that led to this one. -/
def cause? : Fault → Option Fault
  | .failedAfter _ _ cause => some cause
  | _ => none

/-- The fault and its causes, outermost first. -/
def chain : Fault → List Fault
  | .failedAfter operation code cause => .failedAfter operation code cause :: cause.chain
  | fault => [fault]

/-- The error number of a failure that has one of its own. -/
def ownErrno? : Fault → Option Errno
  | .failed _ code | .failedAfter _ code _ => some code
  | _ => none

/-- The error number that a fault stands for. -/
def toErrno : Fault → Errno
  | .invalidArgument _ => .invalid
  | .illegalState _ => .noDevice
  | .notImplemented _ => .notSupported
  | .failed _ code | .failedAfter _ code _ => code

/-- Whether a fault is a failure with exactly this error number. -/
def isErrno (fault : Fault) (code : Errno) : Bool :=
  fault.ownErrno? = some code

def message : Fault → String
  | .invalidArgument reason => s!"invalid argument: {reason.message}"
  | .illegalState reason => s!"illegal state: {reason.message}"
  | .notImplemented operation => s!"{operation} is not implemented"
  | .failed operation code | .failedAfter operation code _ => s!"{operation} failed: {code.message}"

/-- The parts of a failure with an error number, spelled out. -/
def failureText (operation : String) (code : Errno) (cause : String) : String :=
  s!"Errno \x7b errno: {code.symbol}, operation: {Text.quoted operation}, cause: {cause} \x7d"

/-- The class of a fault among input and output failures. -/
def kind : Fault → IoKind
  | .invalidArgument _ => .invalidInput
  | .illegalState _ => .notConnected
  | .notImplemented _ => .unsupported
  | .failed _ code | .failedAfter _ code _ => code.kind

/-- Every part of a fault spelled out. -/
def debugText : Fault → String
  | .invalidArgument reason =>
    s!"InvalidArgument \x7b message: {Text.quoted reason.message} \x7d"
  | .illegalState reason =>
    s!"IllegalState \x7b message: {Text.quoted reason.message} \x7d"
  | .notImplemented operation =>
    s!"NotImplemented \x7b operation: {Text.quoted operation} \x7d"
  | .failed operation code => failureText operation code "None"
  | .failedAfter operation code cause => failureText operation code s!"Some({cause.debugText})"

end Fault

/-- The value of a storage engine's result code: a code below zero is a negated error number. -/
def check (operation : String) (code : Int) : Except Fault Nat :=
  if 0 ≤ code then .ok code.toNat else .error (.failed operation (.ofCode (-code)))

/-! ## Faults held back -/

/-- A place for one pending fault, which becomes the cause of the next one. -/
structure FaultSlot where
  pending : Option Fault
  deriving DecidableEq, Repr

namespace FaultSlot

def empty : FaultSlot := ⟨none⟩

/-- Chain the pending fault onto another one, which leaves the slot empty. -/
def chain (slot : FaultSlot) (fault : Fault) : Fault × FaultSlot :=
  match slot.pending with
  | some cause => (fault.withCause cause, empty)
  | none => (fault, empty)

/-- Hold a fault back.  One that was held back already becomes its cause. -/
def setPending (slot : FaultSlot) (fault : Fault) : FaultSlot :=
  ⟨some (slot.chain fault).1⟩

/-- Take the pending fault out. -/
def take (slot : FaultSlot) : Option Fault × FaultSlot :=
  (slot.pending, empty)

/-- A new failure, caused by the pending fault. -/
def raise (slot : FaultSlot) (operation : String) (code : Errno) : Fault × FaultSlot :=
  slot.chain (.failed operation code)

/-- `check`, with a failure caused by the pending fault.  A success leaves the slot as it is. -/
def check (slot : FaultSlot) (operation : String) (code : Int) : Except Fault Nat × FaultSlot :=
  match Strongbox.check operation code with
  | .ok value => (.ok value, slot)
  | .error fault =>
    let (raised, rest) := slot.chain fault
    (.error raised, rest)

end FaultSlot

/-! ## Stream errors -/

/-- A failed call on an open file, as byte streams report it. -/
inductive StreamError where
  | os (code : Errno)
  | fault (fault : Fault)
  /-- The engine took no byte of a write. -/
  | writeZero
  /-- A seek would leave the range of positions. -/
  | negativeSeek
  deriving DecidableEq, Repr

namespace StreamError

/-- A fault as a stream error.  An error number stands for itself and loses its cause. -/
def ofFault (fault : Fault) : StreamError :=
  match fault.ownErrno? with
  | some code => .os code
  | none => .fault fault

def kind : StreamError → IoKind
  | .os code => code.kind
  | .fault f => f.kind
  | .writeZero => .writeZero
  | .negativeSeek => .invalidInput

/-- The error number of a stream error, if it has one. -/
def errno? : StreamError → Option Errno
  | .os code => some code
  | _ => none

def message : StreamError → String
  | .os code => HostError.osText code
  | .fault f => f.message
  | .writeZero => "write zero"
  | .negativeSeek => "seek to a negative position"

end StreamError

end Strongbox
