import Strongbox.Cli.Failure
import Strongbox.Session.Stream

/-!
# Tasks

A `Task` is what a command does: it makes calls on the session, prints, and may fail on the way.
What was printed before a failure stays printed.
-/

namespace Strongbox

/-- What a command has printed. -/
structure Printed where
  stdout : Bytes
  stderr : String
  deriving DecidableEq, Repr

def Printed.nothing : Printed := ⟨[], ""⟩

/-- A part of a command. -/
abbrev Task := ExceptT Failure (StateT Printed Script)

namespace Task

/-- Stop with a failure. -/
def fail (text : String) : Task α :=
  throw (.because text)

/-- An outcome that was found without a call. -/
def ofExcept (outcome : Except Failure α) : Task α :=
  ExceptT.mk (pure outcome)

/-- Print bytes. -/
def put (bytes : Bytes) : Task Unit :=
  modify fun printed => { printed with stdout := printed.stdout ++ bytes }

/-- Print a line. -/
def putLine (line : String) : Task Unit :=
  put (Bytes.ofText line ++ [10])

/-- Print a line that is not output. -/
def tell (line : String) : Task Unit :=
  modify fun printed => { printed with stderr := printed.stderr ++ line ++ "\n" }

/-- Carry a script out. -/
def script (script : Script α) : Task α :=
  ExceptT.lift (StateT.lift script)

/-- A call, with its outcome. -/
def attempt (call : Call α) : Task (Except Fault α) :=
  script call.run

/-- A call on the session. -/
def call (call : Call α) : Task α := do
  match ← attempt call with
  | .ok value => return value
  | .error fault => throw (.ofFault fault)

/-- A call that may change the session, and the session behind it. -/
def lifecycle (session : Session) (call : SessionCall Unit) : Task Session := do
  match ← script (call.run.run session) with
  | (.ok (), session) => return session
  | (.error fault, _) => throw (.ofFault fault)

/-- A call on a stream, and the stream behind it. -/
def stream (file : FileStream) (call : StreamCall α) : Task (α × FileStream) := do
  match ← script (call.run.run file) with
  | (.ok value, file) => return (value, file)
  | (.error error, _) => throw (.ofStream error)

/-- A part that is told about if it fails. -/
def whenTrying (text : String) (task : Task α) : Task α :=
  ExceptT.mk do
    match ← task.run with
    | .ok value => return .ok value
    | .error failure => return .error (failure.whenTrying text)

end Task

end Strongbox
