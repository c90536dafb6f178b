import Strongbox.Cli.Failure
import Strongbox.Container.Header
import Strongbox.Host
import Strongbox.Toml.Reader

/-!
# The configuration file

The cost of new password containers can be set in a configuration file.

* `Config.ofDocument?` is what a document says.
* `Config.load` reads the file of a host, which may be missing unless the user named it.
-/

namespace Strongbox.Config

/-- An integer below a bound. -/
def nat? (bound : Nat) : Toml → Option Nat
  | .integer (.ofNat n) => if n < bound then some n else none
  | _ => none

/-- The cost parameters that three values give. -/
def cost? (logN r p : Toml) : Option Scrypt.Params := do
  some ⟨← nat? UInt8.size logN, ← nat? UInt32.size r, ← nat? UInt32.size p⟩

/-- Cost parameters are a table, or an array of their values in order. -/
def costOf? : Toml → Option Scrypt.Params
  | .table entries => do
    cost? (← Toml.find? entries "log_n") (← Toml.find? entries "r") (← Toml.find? entries "p")
  | .array (logN :: r :: p :: _) => cost? logN r p
  | _ => none

/-- The configuration that a document gives.  It may be empty, and holds nothing but the cost. -/
def ofDocument? (document : String) : Option EngineConfig := do
  let entries ← Toml.read document
  if entries.any fun (key, _) => key ≠ "kdf" then none
  else match Toml.find? entries "kdf" with
    | none => some .standard
    | some value => (costOf? value).map EngineConfig.mk

/-- Refuse a cost that no container could have. -/
def validate (config : EngineConfig) : Except Failure EngineConfig :=
  if config.cost.logN = 0 ∨ 64 ≤ config.cost.logN then
    .error (.because s!"kdf.log_n must be between 1 and 63, got {config.cost.logN}")
  else .ok config

/-- Read a configuration file. -/
def ofFile (host : Host) (path : String) : Except Failure EngineConfig :=
  let unreadable := fun reason : Reason =>
    Failure.whenTrying s!"Failed to read config: {path}" ⟨[reason]⟩
  match host.read path with
  | .error error => .error (unreadable (.host error))
  | .ok content =>
    match Bytes.toText? content with
    | none => .error (unreadable .notText)
    | some document =>
      match ofDocument? document with
      | none => .error (.because s!"Failed to parse config: {path}")
      | some config => validate config

/-- The configuration of a file that the user named, or else of the file at the usual place if there
is one. -/
def load (host : Host) (named : Option String) (usual : String) : Except Failure EngineConfig :=
  match named with
  | some path => ofFile host path
  | none => if host.present usual then ofFile host usual else .ok .standard

end Strongbox.Config
