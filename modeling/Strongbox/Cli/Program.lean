import Strongbox.Cli.Commands
import Strongbox.Cli.Config
import Strongbox.Engine.Machine

/-!
# The program

A run of the program goes from its command line, its input and the host to what it prints, its exit
code and the host behind it.

* `Invocation.visit` is work on a container that is mounted for it.
* `Invocation.task` is what a run does with the container engine.
* `Program.run` is a whole run.
-/

namespace Strongbox

/-- What a run of the program is given. -/
structure Environment where
  arguments : List String
  input : Bytes
  /-- The password of the environment. -/
  password : Option String
  /-- Where the configuration file usually lies. -/
  configPath : String

/-- What a run of the program leaves behind. -/
structure RunResult where
  stdout : Bytes
  stderr : String
  code : Nat
  host : Host

/-- How a run of the program ends. -/
inductive RunOutcome where
  | finished (result : RunResult)
  /-- The command line was refused, or asks for something other than a command. -/
  | refused (refusal : Refusal)

namespace Invocation

/-- A session on the container, which is not mounted. -/
def openSession (invocation : Invocation) : Task Session :=
  Task.whenTrying s!"Invalid container path: {invocation.container}"
    (Task.lifecycle .blank (Session.setPath invocation.container))

/-- Create the container. -/
def initTask (invocation : Invocation) (input : Bytes) : Task Unit := do
  let s ← invocation.openSession
  let (credential, _) ← Task.ofExcept (invocation.secrets.resolve input)
  Command.createContainer s credential

/-- Mount the container.  The rest of the input comes with the session. -/
def enter (invocation : Invocation) (input : Bytes) : Task (Session × Bytes) := do
  let s ← invocation.openSession
  let (credential, rest) ← Task.ofExcept (invocation.secrets.resolve input)
  let s ← Task.whenTrying s!"Failed to mount {invocation.container}"
    (Task.lifecycle s (Session.mount credential))
  return (s, rest)

/-- Unmount the container behind a command.  The failure of the command is told before that of the
unmount. -/
def leave (s : Session) (outcome : Except Failure Unit) : Task Unit := do
  let (unmounted, s) ← Task.script (Session.unmount.run.run s)
  Task.script s.drop
  match outcome, unmounted with
  | .error failure, _ => throw failure
  | .ok (), .error fault =>
    Task.whenTrying "Failed to unmount container" (throw (.ofFault fault))
  | .ok (), .ok () => return ()

/-- Do some work on the mounted container and unmount it, also where the work fails. -/
def stay (s : Session) (work : Task Unit) : Task Unit := do
  let outcome ← ExceptT.lift work.run
  leave s outcome

/-- Do some work on a container that is mounted for it. -/
def visit (invocation : Invocation) (work : Session → Bytes → Task Unit) (input : Bytes) :
    Task Unit := do
  let (s, rest) ← invocation.enter input
  stay s (work s rest)

/-- Carry the command out on the mounted container. -/
def mountedTask (invocation : Invocation) (input : Bytes) : Task Unit :=
  invocation.visit (fun s rest => invocation.command.execute s rest) input

/-- What an invocation does. -/
def task (invocation : Invocation) (input : Bytes) : Task Unit :=
  match invocation.command with
  | .init => invocation.initTask input
  | _ => invocation.mountedTask input

end Invocation

namespace Program

/-- Whether failures are to be kept quiet.  Only the plain spellings count here. -/
def isQuiet (arguments : List String) : Bool :=
  arguments.any fun argument => argument == "-q" || argument == "--quiet"

/-- The end of a run, with what it has printed so far. -/
def finish (environment : Environment) (host : Host) (printed : Printed)
    (outcome : Except Failure Unit) : RunResult :=
  match outcome with
  | .ok () => ⟨printed.stdout, printed.stderr, ExitCode.success, host⟩
  | .error failure =>
    let told := if isQuiet environment.arguments then "" else s!"Error: {failure.message}\n"
    ⟨printed.stdout, printed.stderr ++ told, failure.exitCode, host⟩

/-- Run the program.  The moments are those of its calls to the engine. -/
def run (suite : CipherSuite) (moments : Nat → Moment) (host : Host) (environment : Environment) :
    RunOutcome :=
  match Invocation.parse environment.password environment.arguments with
  | .error refusal => .refused refusal
  | .ok invocation =>
    match Config.load host invocation.config environment.configPath with
    | .error failure => .finished (finish environment host .nothing (.error failure))
    | .ok config =>
      let start : Timeline := ⟨⟨.ofConfig config, host⟩, moments, 0⟩
      let ((outcome, printed), line) :=
        ((invocation.task environment.input).run.run .nothing).run (Timeline.engine suite)
          mainThread start
      .finished (finish environment line.machine.host printed outcome)

end Program

end Strongbox
