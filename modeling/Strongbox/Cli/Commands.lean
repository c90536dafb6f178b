import Strongbox.Cli.Arguments
import Strongbox.Cli.EntryPath
import Strongbox.Cli.Task
import Strongbox.Json.Token
import Strongbox.Text.Size
import Strongbox.Text.Table

/-!
# Commands

What each command does with a session.

* `Command.execute` is the task of a command on a mounted container.
* `removeTree` removes a directory with everything below it, inside a transaction.
-/

namespace Strongbox

/-- Print a JSON document for other programs. -/
def Task.putJson (fields : List (String × Json)) : Task Unit :=
  Task.put (Json.pretty 0 (.object (fields.map fun (name, value) => (Json.ascii name, value)))
    ++ [10])

namespace Command

/-! ## Looking -/

/-- An entry of a directory. -/
structure Entry where
  name : String
  stat : FileStat
  deriving DecidableEq, Repr

namespace Entry

/-- The name, with a slash behind that of a directory. -/
def display (entry : Entry) : String :=
  if entry.stat.isDir then entry.name ++ "/" else entry.name

/-- The row of an entry in a long listing. -/
def row (entry : Entry) : List String :=
  [entry.stat.modeText, if entry.stat.isDir then "-" else Text.sizeText entry.stat.size,
    entry.stat.mtime.text, entry.display]

def toJson (entry : Entry) : Json :=
  .object [(Json.ascii "name", .ofText entry.name),
    (Json.ascii "type", .ofText entry.stat.typeText),
    (Json.ascii "size", .ofNat entry.stat.size),
    (Json.ascii "mode", .ofText (FileStat.octal entry.stat.permissions)),
    (Json.ascii "modified", .ofInt entry.stat.mtime.seconds)]

end Entry

/-- The attributes of some names in a directory. -/
def entriesOf (s : Session) (directory : String) : List String → Task (List Entry)
  | [] => return []
  | name :: rest => do
    let stat ← Task.call (s.stat (EntryPath.join directory name))
    return ⟨name, stat⟩ :: (← entriesOf s directory rest)

/-- List a directory.  Names that start with a dot are shown on demand. -/
def list (s : Session) (argument : String) (long all json : Bool) : Task Unit := do
  let path := EntryPath.ofArgument argument
  let stat ← Task.whenTrying s!"Cannot access {path}" (Task.call (s.stat path))
  if !stat.isDir then Task.fail s!"Not a directory: {path}"
  let names ← Task.call (s.list path)
  let entries ← entriesOf s path (names.filter fun name => all || !Key.startsWith name ".")
  if json then
    Task.putJson [("path", .ofText path), ("entries", .array (entries.map Entry.toJson))]
  else if long then
    Task.putLine (Text.Table.render
      ⟨some ["Mode", "Size", "Modified", "Name"], entries.map Entry.row⟩)
  else entries.forM fun entry => Task.putLine entry.display

/-- The octal permission bits with at least four digits. -/
def fourDigits (mode : Nat) : String :=
  let digits := FileStat.octal mode
  String.ofList (List.replicate (4 - digits.length) '0') ++ digits

/-- Show the attributes of a path. -/
def showStat (s : Session) (argument : String) (json : Bool) : Task Unit := do
  let path := EntryPath.ofArgument argument
  let stat ← Task.whenTrying s!"Cannot stat {path}" (Task.call (s.stat path))
  if json then
    Task.putJson [("path", .ofText path), ("type", .ofText stat.typeText),
      ("size", .ofNat stat.size), ("mode", .ofText (FileStat.octal stat.permissions)),
      ("inode", .ofNat stat.ino), ("links", .ofNat stat.nlink), ("uid", .ofNat stat.uid),
      ("gid", .ofNat stat.gid), ("blocks", .ofNat stat.blocks),
      ("accessed", .ofInt stat.atime.seconds), ("modified", .ofInt stat.mtime.seconds),
      ("changed", .ofInt stat.ctime.seconds)]
  else
    Task.putLine (Text.Table.render ⟨none, [
      ["Path", path],
      ["Type", stat.typeText],
      ["Size", toString stat.size],
      ["Mode", s!"{fourDigits stat.permissions} ({stat.modeText})"],
      ["Inode", toString stat.ino],
      ["Links", toString stat.nlink],
      ["Owner", s!"{stat.uid}:{stat.gid}"],
      ["Accessed", stat.atime.text],
      ["Modified", stat.mtime.text],
      ["Changed", stat.ctime.text]]⟩)

/-- A number that stays within 64 bits. -/
def saturated (n : Nat) : Nat :=
  min n (UInt64.size - 1)

/-- Show how much space there is where the container lies. -/
def showSpace (s : Session) (json : Bool) : Task Unit := do
  let stat ← Task.call s.statfs
  let container := saturated (stat.blocks * 512)
  let free := saturated (stat.blocksFree * stat.fragmentSize)
  let available := saturated (stat.blocksAvailable * stat.fragmentSize)
  if json then
    Task.putJson [("block_size", .ofNat stat.blockSize), ("container_bytes", .ofNat container),
      ("free_bytes", .ofNat free), ("available_bytes", .ofNat available),
      ("files", .ofNat stat.files), ("free_files", .ofNat stat.filesFree),
      ("max_name_length", .ofNat stat.nameMax)]
  else
    Task.putLine (Text.Table.render ⟨some ["Container", "Free", "Available", "Block size"],
      [[Text.sizeText container, Text.sizeText free, Text.sizeText available,
        toString stat.blockSize]]⟩)

/-! ## File contents -/

/-- Print a file, which is read by the chunk. -/
def printFile (s : Session) (chunk : Nat) (argument : String) : Task Unit := do
  let path := EntryPath.ofArgument argument
  let file ← Task.whenTrying s!"Cannot open {path}"
    (Task.call (OpenOptions.reading.openFile s path))
  let (content, file) ←
    Task.whenTrying s!"Cannot read {path}" (Task.stream file (FileStream.readAll s chunk))
  Task.put content
  let _ ← Task.stream file (FileStream.close s)

/-- How a file is opened that the input goes to. -/
def writeOptions (append : Bool) : OpenOptions :=
  { write := true, create := true, append := append, truncate := !append }

/-- The pieces of an input, none of them empty and none longer than a chunk. -/
def chunks (input : Bytes) : List Bytes :=
  (List.range ((input.length + FileStream.chunkSize - 1) / FileStream.chunkSize)).map fun n =>
    (input.drop (n * FileStream.chunkSize)).take FileStream.chunkSize

/-- Write pieces one after the other. -/
def writeChunks (s : Session) (file : FileStream) : List Bytes → Task FileStream
  | [] => return file
  | chunk :: rest => do
    let (_, file) ← Task.stream file (FileStream.write s chunk)
    writeChunks s file rest

/-- Put the input into a file. -/
def writeFile (s : Session) (argument : String) (append : Bool) (input : List Bytes) :
    Task Unit := do
  let path := EntryPath.ofArgument argument
  let file ← Task.whenTrying s!"Cannot open {path} for writing"
    (Task.call ((writeOptions append).openFile s path))
  let file ← Task.whenTrying s!"Cannot write {path}" (writeChunks s file input)
  let (_, file) ← Task.stream file (FileStream.sync s)
  let _ ← Task.stream file (FileStream.close s)

/-! ## The namespace -/

/-- The paths of all directories on the way along a path, outermost first. -/
def prefixPaths (path : String) : List String :=
  let parts := EntryPath.components path
  (List.range parts.length).map fun n => "/" ++ "/".intercalate (parts.take (n + 1))

/-- Create a directory. -/
def createDirectory (s : Session) (path : String) (mode : Nat) : Task Unit :=
  Task.whenTrying s!"Cannot create directory {path}" (Task.call (s.mkdir path mode))

/-- Create the directories that are missing. -/
def createDirectories (s : Session) (mode : Nat) : List String → Task Unit
  | [] => return ()
  | path :: rest => do
    if !(← Task.call (s.isDirectory path)) then createDirectory s path mode
    createDirectories s mode rest

def makeDirectory (s : Session) (argument : String) (parents : Bool) (mode : Nat) : Task Unit :=
  let path := EntryPath.ofArgument argument
  if parents then createDirectories s mode (prefixPaths path) else createDirectory s path mode

/-- How much was removed. -/
structure Removed where
  files : Nat
  directories : Nat
  deriving DecidableEq, Repr

/-- The failure of a walk that runs out of fuel. -/
def tooDeep (path : String) : Failure :=
  .because s!"Too many levels of directories: {path}"

/-- Remove a directory with everything below it.  `fuel` bounds how deep directories nest. -/
def removeTree (s : Session) : Nat → String → Removed → Task Removed
  | 0, path, _ => throw (tooDeep path)
  | fuel + 1, path, removed => do
    let names ← Task.call (s.list path)
    let removed ← names.foldlM
      (fun removed name => do
        let child := EntryPath.join path name
        if ← Task.call (s.isDirectory child) then removeTree s fuel child removed
        else
          Task.whenTrying s!"Cannot remove {child}" (Task.call (s.unlink child))
          return { removed with files := removed.files + 1 })
      removed
    Task.whenTrying s!"Cannot remove directory {path}" (Task.call (s.rmdir path))
    return { removed with directories := removed.directories + 1 }

/-- Remove a directory with everything below it, or nothing at all. -/
def removeAll (s : Session) (path : String) : Task Unit := do
  Task.call s.beginTransaction
  let view ← Task.script Script.view
  match ← ExceptT.lift (removeTree s (view.extent + 1) path ⟨0, 0⟩).run with
  | .ok removed =>
    Task.call s.completeTransaction
    Task.tell s!"Deleted {removed.files} files and {removed.directories} directories"
  | .error failure =>
    let _ ← Task.attempt s.rollbackTransaction
    throw failure

/-- Remove a node, but never the root. -/
def remove (s : Session) (argument : String) (recursive force : Bool) : Task Unit := do
  let path := EntryPath.ofArgument argument
  if path = "/" then Task.fail "Refusing to remove the container root"
  match ← Task.attempt (s.stat path) with
  | .error fault =>
    if force && fault.isErrno .noEntry then return ()
    else Task.whenTrying s!"Cannot remove {path}" (throw (.ofFault fault))
  | .ok found =>
    if !found.isDir then Task.whenTrying s!"Cannot remove {path}" (Task.call (s.unlink path))
    else if recursive then removeAll s path
    else
      Task.whenTrying s!"Cannot remove directory {path} (use -r for non-empty directories)"
        (Task.call (s.rmdir path))

def move (s : Session) (source target : String) : Task Unit :=
  let source := EntryPath.ofArgument source
  let target := EntryPath.ofArgument target
  Task.whenTrying s!"Cannot move {source} to {target}" (Task.call (s.rename source target))

def changeMode (s : Session) (argument : String) (mode : Nat) : Task Unit :=
  let path := EntryPath.ofArgument argument
  Task.whenTrying s!"Cannot change mode of {path}" (Task.call (s.chmod path mode))

/-! ## Containers -/

/-- Create a container where there is nothing yet. -/
def createContainer (s : Session) (credential : Credential) : Task Unit := do
  let some path := s.containerPath | Task.fail "No container path given"
  let view ← Task.script Script.view
  if view.host.present path then Task.fail s!"Container already exists: {path}"
  let _ ← Task.whenTrying s!"Failed to create container {path}"
    (Task.lifecycle s (Session.createContainer credential))
  Task.putLine s!"Created new container at {path}"

/-- What a command does with a mounted container.  Creating one needs none. -/
def execute (s : Session) (input : Bytes) : Command → Task Unit
  | .init => return ()
  | .ls path long all json => list s path long all json
  | .cat files => files.forM (printFile s FileStream.chunkSize)
  | .write path append => writeFile s path append (chunks input)
  | .mkdir path parents mode => makeDirectory s path parents mode
  | .rm path recursive force => remove s path recursive force
  | .mv source target => move s source target
  | .stat path json => showStat s path json
  | .df json => showSpace s json
  | .chmod mode path => changeMode s path mode

end Command

end Strongbox
