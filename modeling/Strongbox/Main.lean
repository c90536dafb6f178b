import Std.Time.DateTime.Timestamp
import Strongbox.Cli.Program

/-!
# The program on a real host

The outer layer of the program.  It gathers what a run looks at into a `Host`, leaves all decisions
to `Program.run`, and puts the container file that the run leaves behind in its place.

The host has no figures of the volume here, so they are shown as zero, and what it holds is taken to
be the user's own.  A relative path starts at the working directory.
-/

namespace Strongbox.Terminal

/-- The paths of everything on the way along a path, outermost first. -/
def stepsTo (path : String) : List String :=
  let names := HostPath.names path
  let lead := if path.startsWith "/" then "/" else ""
  (List.range names.length).map fun n => HostPath.join lead (names.take (n + 1))

/-- Take in what lies on the way along a path, and the content of the file at its end. -/
def load (host : Host) (path : String) : IO Host := do
  let here ← IO.currentDir
  let steps := stepsTo path
  steps.foldlM
    (fun host (step : String) => do
      let place := here / step
      if ← place.isDir then return (host.makeDirectory step).toOption.getD host
      else if ← place.pathExists then
        let content ← if steps.getLast? = some step then IO.FS.readBinFile place else pure .empty
        return (host.write step content.toList).toOption.getD host
      else return host)
    host

/-- Put a complete new file, which only its owner can read, in the place of an old one. -/
def replaceFile (path : String) (content : Bytes) : IO Unit := do
  let here ← IO.currentDir
  let draft := here / s!"{path}.new"
  IO.FS.writeBinFile draft .empty
  IO.setAccessRights draft ⟨⟨true, true, false⟩, ⟨false, false, false⟩, ⟨false, false, false⟩⟩
  IO.FS.writeBinFile draft ⟨content.toArray⟩
  IO.FS.rename draft (here / path)

/-- The number behind a label in what the system tells about this process. -/
def ownNumber (label : String) : IO Nat := do
  try
    let lines ← IO.FS.lines "/proc/self/status"
    let fields := (lines.toList.map fun line => line.splitOn "\t").find? (·.head? == some label)
    return ((fields.bind (·[1]?)).bind String.toNat?).getD 0
  catch _ => return 0

/-- The moments of a run, all at the same time and each with a nonce of its own. -/
def moments : IO (Nat → Moment) := do
  let time := (← Std.Time.Timestamp.now).toNanosecondsSinceUnixEpoch.val
  let now := Time.ofParts (time.fdiv 1000000000) (time.fmod 1000000000).toNat
  let stamp : Stamp := ⟨now, ← ownNumber "Uid:", ← ownNumber "Gid:"⟩
  let salt := (← IO.getRandomBytes saltLength.toUSize).toList
  let first := (← IO.getRandomBytes nonceLength.toUSize).toList.foldl
    (fun total byte => total * 256 + byte.toNat) 0
  return fun n => ⟨stamp, salt, .ofNat (first + n), none⟩

/-- Read from a stream up to its end. -/
partial def readAll (input : IO.FS.Stream) (taken : ByteArray) : IO ByteArray := do
  let chunk ← input.read 65536
  if chunk.isEmpty then return taken else readAll input (taken ++ chunk)

/-- Where the configuration file usually lies. -/
def configPath : IO String := do
  let directory ← match ← IO.getEnv "OXVFS_CONFIG_DIR", ← IO.getEnv "XDG_CONFIG_HOME" with
    | some directory, _ => pure directory
    | none, some base => pure s!"{base}/oxvfs"
    | none, none => do
      let home := (← IO.getEnv "HOME").getD ""
      pure s!"{home}/.config/oxvfs"
  return s!"{directory}/config.toml"

/-- Carry out a command line that makes sense. -/
def carryOut (environment : Environment) (invocation : Invocation) : IO UInt32 := do
  let container := invocation.container
  let before ← [invocation.config.getD environment.configPath, container].foldlM load
    (.bare ⟨4096, 0, 0, 0, 0, 0⟩ "/")
  let input ← if invocation.readsInput then readAll (← IO.getStdin) .empty else pure .empty
  match Program.run .standard (← moments) before { environment with input := input.toList } with
  | .refused refusal => do
    IO.eprintln refusal.text
    return ExitCode.usage.toUInt32
  | .finished result => do
    match (before.read container).toOption, (result.host.read container).toOption with
    | old, some content => if old ≠ some content then replaceFile container content
    | _, none => pure ()
    let output ← IO.getStdout
    output.write ⟨result.stdout.toArray⟩
    output.flush
    IO.eprint result.stderr
    return result.code.toUInt32

/-- Run the program. -/
def run (arguments : List String) : IO UInt32 := do
  let password ← IO.getEnv "OXVFS_PASSWORD"
  let environment : Environment := ⟨arguments, [], password, ← configPath⟩
  match Invocation.parse password arguments with
  | .ok invocation => carryOut environment invocation
  | .error .usage => do
    IO.eprintln Refusal.usage.text
    return ExitCode.usage.toUInt32
  | .error refusal => do
    IO.println refusal.text
    return ExitCode.success.toUInt32

end Strongbox.Terminal

def main (arguments : List String) : IO UInt32 :=
  Strongbox.Terminal.run arguments
