import Strongbox.Session

/-!
# Operations on a mounted container

The calls of a POSIX file system on a session.  Each one asks for a mounted container first, then
makes its requests by path and turns their result codes into values or faults.

A `PathHandle` stands for an open file.  The engine keeps nothing about it, so a handle is no more
than a path, and a file that is opened stays open for everybody.
-/

namespace Strongbox

/-- An open file, by the path it was opened with. -/
structure PathHandle where
  path : String
  /-- Whether it was not closed yet. -/
  valid : Bool
  deriving DecidableEq, Repr

/-- A handle of a path, without a request. -/
def PathHandle.ofPath (path : String) : PathHandle :=
  ⟨path, true⟩

/-- What is known about the volume that holds a container. -/
structure VolumeStat where
  blockSize : Nat
  fragmentSize : Nat
  /-- The number of 512-byte blocks of the container file. -/
  blocks : Nat
  blocksFree : Nat
  blocksAvailable : Nat
  files : Nat
  filesFree : Nat
  nameMax : Nat
  deriving DecidableEq, Repr

namespace Session

/-! ## Opening and closing -/

/-- Carry out a change as one step of an open.  A fault is caused by the one held back. -/
def attempt (slot : FaultSlot) (change : Change) : Call Unit := do
  let code ← Call.request (.change change)
  discard <| ExceptT.mk (.done (slot.check "open" code).1)

/-- Make sure that a file is there, as the flags ask.  Whether a file is missing is asked first, so
that one that exists is opened rather than created. -/
def openOrCreate (path : String) (flags : OpenFlags) (mode : Nat) : Call Unit := do
  let create := Change.create path mode
  let reopen := Change.openFile path flags
  if flags.contains (.union .create .exclusive) then attempt .empty create
  else if flags.contains .create then
    let code ← Call.request (.access path .existence)
    match check "access" code with
    | .ok _ => attempt .empty reopen
    | .error fault =>
      if fault.isErrno .noEntry then attempt .empty create
      else attempt (FaultSlot.empty.setPending fault) reopen
  else attempt .empty reopen

/-- Open a file and give it permission bits.  The file is open even if they could not be set. -/
def openFile (s : Session) (path : String) (flags : OpenFlags) (mode : Nat) :
    Call PathHandle := do
  s.require "open"
  openOrCreate path flags mode
  let _ ← Call.request (.change (.chmod path mode))
  return .ofPath path

/-- Close a handle. -/
def close (s : Session) (handle : PathHandle) : Call PathHandle := do
  s.require "close"
  return { handle with valid := false }

/-! ## File contents -/

/-- The first `length` bytes of a buffer of zeros that some bytes were put into. -/
def buffered (length : Nat) (bytes : Bytes) : Bytes :=
  bytes.take length ++ List.replicate (length - bytes.length) 0

/-- Read up to `count` bytes: how many were read, and which.  None are read at the end of the file,
which the engine reports as a failed read. -/
def pread (s : Session) (handle : PathHandle) (count offset : Nat) : Call (Nat × Bytes) := do
  s.require "pread"
  let (code, bytes) ← Call.request (.read handle.path count offset)
  match check "pread" code with
  | .ok n => return (n, buffered (min n count) bytes)
  | .error fault => if fault.isErrno .ioFailure then return (0, []) else throw fault

/-- Write a buffer, and tell how much of it was taken. -/
def pwrite (s : Session) (handle : PathHandle) (buffer : Bytes) (offset : Nat) : Call Nat := do
  s.require "pwrite"
  Call.change "pwrite" (.write handle.path buffer offset)

/-- Save what was written. -/
def fsync (s : Session) (handle : PathHandle) : Call Unit := do
  s.require "fsync"
  discard <| Call.check "fsync" (← Call.request (.fsync handle.path))

def ftruncate (s : Session) (handle : PathHandle) (length : Nat) : Call Unit := do
  s.require "ftruncate"
  discard <| Call.change "ftruncate" (.truncate handle.path length)

def truncate (s : Session) (path : String) (length : Nat) : Call Unit := do
  s.require "truncate"
  discard <| Call.change "truncate" (.truncate path length)

/-! ## The namespace -/

def mkdir (s : Session) (path : String) (mode : Nat) : Call Unit := do
  s.require "mkdir"
  discard <| Call.change "mkdir" (.mkdir path mode)

def rmdir (s : Session) (path : String) : Call Unit := do
  s.require "rmdir"
  discard <| Call.change "rmdir" (.rmdir path)

def unlink (s : Session) (path : String) : Call Unit := do
  s.require "unlink"
  discard <| Call.change "unlink" (.unlink path)

/-- Remove an empty directory or any other node. -/
def remove (s : Session) (path : String) : Call Unit := do
  s.require "remove"
  let directory : Bool ← Call.request (.isDir path)
  if directory then discard <| Call.change "rmdir" (.rmdir path)
  else discard <| Call.change "unlink" (.unlink path)

def rename (s : Session) (source target : String) : Call Unit := do
  s.require "rename"
  discard <| Call.change "rename" (.rename source target)

def link (s : Session) (source target : String) : Call Unit := do
  s.require "link"
  discard <| Call.change "link" (.link source target)

def symlink (s : Session) (target path : String) : Call Unit := do
  s.require "symlink"
  discard <| Call.change "symlink" (.symlink target path)

/-- The names in a directory. -/
def list (s : Session) (path : String) : Call (List String) := do
  s.require "list"
  let (code, names) ← Call.request (.readdir path)
  let _ ← Call.check "list" code
  return names.filter fun name => name ≠ "." && name ≠ ".."

def isDirectory (s : Session) (path : String) : Call Bool := do
  s.require "is_directory"
  Call.request (.isDir path)

/-! ## Attributes -/

/-- The attributes of a path, asked for on behalf of an operation. -/
def attributes (s : Session) (operation path : String) : Call FileStat := do
  s.require operation
  let (code, stat) ← Call.request (.getattr path)
  let _ ← Call.check operation code
  return stat

def stat (s : Session) (path : String) : Call FileStat :=
  s.attributes "stat" path

def fstat (s : Session) (handle : PathHandle) : Call FileStat :=
  s.attributes "fstat" handle.path

/-- The attributes of a symbolic link itself cannot be asked for. -/
def lstat (s : Session) (_path : String) : Call FileStat := do
  s.require "lstat"
  throw (.notImplemented "lstat")

/-- Whether a path can be accessed.  One that is missing or forbidden cannot; anything else that
goes wrong is a fault. -/
def access (s : Session) (path : String) (mode : AccessMode) : Call Bool := do
  s.require "access"
  let code ← Call.request (.access path mode)
  match check "access" code with
  | .ok _ => return true
  | .error fault =>
    if fault.isErrno .noEntry || fault.isErrno .accessDenied then return false else throw fault

def chmod (s : Session) (path : String) (mode : Nat) : Call Unit := do
  s.require "chmod"
  discard <| Call.change "chmod" (.chmod path mode)

/-- Set times; a time that is not given stays. -/
def utimens (s : Session) (path : String) (atime mtime : Option Time) : Call Unit := do
  s.require "utimens"
  discard <| Call.change "utimens" (.utimens path atime mtime)

def lastModified (s : Session) (path : String) : Call Time :=
  return (← s.attributes "last_modified" path).mtime

/-- Set the time of the last change and keep the time of the last access. -/
def setLastModified (s : Session) (path : String) (mtime : Time) : Call Unit := do
  s.require "set_last_modified"
  discard <| Call.change "set_last_modified" (.utimens path none (some mtime))

/-- The figures of the volume that holds the container, with the block size of the engine and the
blocks of the container file. -/
def statfs (s : Session) : Call VolumeStat := do
  s.require "statfs"
  match s.containerPath with
  | none => throw (.illegalState .noPath)
  | some path =>
    let host ← Call.host
    match host.node path with
    | .error error => throw (.failed "statfs" (error.errno?.getD .invalid))
    | .ok node =>
      let volume := host.volume
      return {
        blockSize := pageSize
        fragmentSize := volume.fragmentSize
        blocks := node.blocks
        blocksFree := volume.blocksFree
        blocksAvailable := volume.blocksAvailable
        files := volume.files
        filesFree := volume.filesFree
        nameMax := volume.nameMax }

end Session

end Strongbox
