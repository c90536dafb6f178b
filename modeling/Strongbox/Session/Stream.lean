import Strongbox.Session.Operations

/-!
# Files as byte streams

A `FileStream` is an open file with a cursor.

* `OpenOptions.openFile` opens one.
* `FileStream.read`, `FileStream.write` and `FileStream.seek` move the cursor.
* `FileStream.readAll` reads up to the end of the file.

A stream does nothing any more once it is closed.
-/

namespace Strongbox

/-! ## Opening -/

/-- How a stream is opened. -/
structure OpenOptions where
  read : Bool := false
  write : Bool := false
  append : Bool := false
  truncate : Bool := false
  create : Bool := false
  createNew : Bool := false
  deriving DecidableEq, Repr

/-- An open file with a cursor. -/
structure FileStream where
  handle : PathHandle
  /-- The cursor, in bytes from the start of the file. -/
  position : Nat
  /-- Whether every write goes to the end of the file. -/
  append : Bool
  closed : Bool
  deriving DecidableEq, Repr

namespace OpenOptions

/-- Open an existing file for reading. -/
def reading : OpenOptions := { read := true }

/-- Create a file, or drop the content of one that exists. -/
def creating : OpenOptions := { write := true, create := true, truncate := true }

/-- How the file is going to be accessed. -/
def accessFlags (options : OpenOptions) : OpenFlags :=
  match options.read, options.write || options.append with
  | true, true => .readWrite
  | false, true => .writeOnly
  | _, false => .readOnly

/-- The flags that the options stand for.  Creating a new file wins over creating one at need. -/
def flags (options : OpenOptions) : OpenFlags :=
  let creation :=
    if options.createNew then OpenFlags.union .create .exclusive
    else if options.create then .create
    else .readOnly
  let truncation := if options.truncate then OpenFlags.truncate else .readOnly
  (options.accessFlags.union creation).union truncation

/-- The permission bits of a file that a stream creates. -/
def newFileMode : Nat := 0o600

/-- The permission bits that an open should leave: those of an existing file, which has to be no
directory, or those of a new file. -/
def modeFor (s : Session) (path : String) : Call Nat := do
  match ← ExceptT.lift (s.stat path).run with
  | .ok stat => if stat.isDir then throw (.failed "open" .isDirectory) else return stat.permissions
  | .error fault => if fault.isErrno .noEntry then return newFileMode else throw fault

/-- Open a stream. -/
def openFile (options : OpenOptions) (s : Session) (path : String) : Call FileStream := do
  let mode ← modeFor s path
  let handle ← s.openFile path options.flags mode
  return ⟨handle, 0, options.append, false⟩

end OpenOptions

/-! ## Using a stream -/

/-- A call on a stream. -/
abbrev StreamCall := ExceptT StreamError (StateT FileStream Script)

/-- Where a seek counts from. -/
inductive SeekFrom where
  | start (offset : Nat)
  | current (delta : Int)
  | fromEnd (delta : Int)
  deriving DecidableEq, Repr

namespace FileStream

/-- A call on the session as part of a call on a stream. -/
def within (call : Call α) : StreamCall α :=
  ExceptT.mk (StateT.lift do
    match ← call.run with
    | .ok value => return .ok value
    | .error fault => return .error (.ofFault fault))

/-- Refuse a closed stream. -/
def requireOpen : StreamCall Unit := do
  if (← get).closed then throw (.os .badDescriptor)

/-- The attributes of the file. -/
def metadata (s : Session) : StreamCall FileStat := do
  requireOpen
  within (s.fstat (← get).handle)

/-- Cut the file to a length or let it grow; the cursor stays. -/
def setLength (s : Session) (length : Nat) : StreamCall Unit := do
  requireOpen
  within (s.ftruncate (← get).handle length)

/-- Save what was written. -/
def sync (s : Session) : StreamCall Unit := do
  requireOpen
  within (s.fsync (← get).handle)

/-- Nothing is held back in a stream, so there is nothing to flush. -/
def flush : StreamCall Unit :=
  requireOpen

/-- Close the stream.  Closing it again does nothing. -/
def close (s : Session) : StreamCall Unit := do
  let f ← get
  if f.closed then return ()
  let handle ← within (s.close f.handle)
  set { f with handle := handle, closed := true }

/-- Read up to `count` bytes at the cursor: how many were read, and which. -/
def read (s : Session) (count : Nat) : StreamCall (Nat × Bytes) := do
  requireOpen
  let f ← get
  let (n, bytes) ← within (s.pread f.handle count f.position)
  set { f with position := f.position + n }
  return (n, bytes)

/-- The usual number of bytes that one read of many asks for. -/
def chunkSize : Nat := 8192

/-- Read on by the chunk until nothing is left, at most `fuel` times.  `done` are the chunks read so
far, latest first. -/
def readRest (s : Session) (chunk : Nat) : Nat → List Bytes → StreamCall Bytes
  | 0, done => return done.reverse.flatten
  | fuel + 1, done => do
    let (n, bytes) ← read s chunk
    if n = 0 then return done.reverse.flatten else readRest s chunk fuel (bytes :: done)

/-- Read everything from the cursor on.  Every read but the last one brings at least one byte. -/
def readAll (s : Session) (chunk : Nat) : StreamCall Bytes := do
  let view ← within (ExceptT.lift Script.view)
  readRest s chunk (view.extent + 1) []

/-- Write a buffer piece by piece, as large as the engine takes them.  `written` bytes went before
it. -/
def writeRest (s : Session) (written : Nat) (buffer : Bytes) : StreamCall Nat :=
  match buffer with
  | [] => return written
  | b :: rest => do
    let f ← get
    let n ← within (s.pwrite f.handle (b :: rest) f.position)
    if n = 0 then throw .writeZero
    else
      set { f with position := f.position + n }
      writeRest s (written + n) (rest.drop (n - 1))
termination_by buffer.length
decreasing_by simp only [List.length_drop, List.length_cons]; omega

/-- Write a whole buffer at the cursor, or at the end of the file.  If that fails half way, the
cursor stands behind what was written. -/
def write (s : Session) (buffer : Bytes) : StreamCall Nat := do
  requireOpen
  let f ← get
  if f.append then
    let stat ← within (s.fstat f.handle)
    set { f with position := stat.size }
  writeRest s 0 buffer

/-- The position a number of bytes away from another one, if it is one at all. -/
def shifted (base : Nat) (delta : Int) : Except StreamError Nat :=
  let position := base + delta
  if 0 ≤ position ∧ position < UInt64.size then .ok position.toNat else .error .negativeSeek

/-- Set the cursor and tell where it is. -/
def moveTo (position : Nat) : StreamCall Nat := do
  modify fun f => { f with position := position }
  return position

/-- Move the cursor. -/
def seek (s : Session) (target : SeekFrom) : StreamCall Nat := do
  requireOpen
  let f ← get
  match target with
  | .start offset => moveTo offset
  | .current delta => moveTo (← ExceptT.mk (pure (shifted f.position delta)))
  | .fromEnd delta =>
    let stat ← within (s.fstat f.handle)
    moveTo (← ExceptT.mk (pure (shifted stat.size delta)))

end FileStream

end Strongbox
