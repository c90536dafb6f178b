import Strongbox.Cli.Permissions
import Strongbox.Cli.Secret

/-!
# The command line

A command line is a list of options and a command, followed by the command's own arguments.  Some
options may stand anywhere.

* `Level.scan` goes through the arguments of one level: of the program or of a command.
* `Invocation.parse` makes a command of a whole command line, or tells that it is none.
-/

namespace Strongbox

/-! ## Commands -/

/-- What a user can ask for. -/
inductive Command where
  | init
  | ls (path : String) (long all json : Bool)
  | cat (files : List String)
  | write (path : String) (append : Bool)
  | mkdir (path : String) (parents : Bool) (mode : Nat)
  | rm (path : String) (recursive force : Bool)
  | mv (source target : String)
  | stat (path : String) (json : Bool)
  | df (json : Bool)
  | chmod (mode : Nat) (path : String)
  deriving DecidableEq, Repr

/-- A command line that makes sense. -/
structure Invocation where
  container : String
  command : Command
  secrets : SecretOptions
  /-- The configuration file that the user named. -/
  config : Option String
  deriving DecidableEq, Repr

/-- Why a command line runs no command. -/
inductive Refusal where
  /-- It makes no sense. -/
  | usage
  /-- It asks for help. -/
  | help
  /-- It asks for the version of a program or command. -/
  | version (name : String)
  deriving DecidableEq, Repr

/-! ## Options -/

/-- What a value or an argument has to be. -/
inductive ValueKind where
  | text
  /-- A path of the host, which is never empty. -/
  | hostPath
  | permissions
  deriving DecidableEq, Repr

/-- Whether a value is of a kind. -/
def ValueKind.accepts (text : String) : ValueKind → Bool
  | .text => true
  | .hostPath => !text.isEmpty
  | .permissions => (Permissions.parse text).isOk

/-- What an option does. -/
inductive OptionKind where
  /-- It is given once or not at all. -/
  | flag
  /-- It may be given several times. -/
  | counter
  /-- It takes a value. -/
  | value (kind : ValueKind)
  deriving DecidableEq, Repr

def OptionKind.takesValue : OptionKind → Bool
  | .value _ => true
  | .flag | .counter => false

/-- An option, by its long name. -/
structure OptionSpec where
  name : String
  short : Option Char
  kind : OptionKind
  deriving DecidableEq, Repr

/-- The options and arguments of the program or of a command. -/
structure Level where
  /-- The name under which it shows its version. -/
  title : String
  options : List OptionSpec
  /-- What its arguments are, in order. -/
  arguments : List ValueKind
  /-- What further arguments are, if it takes any number of them. -/
  further : Option ValueKind
  /-- The commands it has. -/
  commands : List String

/-- What was found on one level. -/
structure Found where
  /-- Options by long name, with their values. -/
  options : List (String × Option String)
  arguments : List String
  deriving DecidableEq, Repr

namespace Found

def has (found : Found) (name : String) : Bool :=
  found.options.any fun (given, _) => given == name

def value? (found : Found) (name : String) : Option String :=
  (found.options.lookup name).join

end Found

namespace Level

def longOption? (level : Level) (name : String) : Option OptionSpec :=
  level.options.find? (·.name == name)

def shortOption? (level : Level) (letter : Char) : Option OptionSpec :=
  level.options.find? (·.short == some letter)

/-- Note an option without a value.  Only a counter may be given again. -/
def noteFlag (spec : OptionSpec) (found : Found) : Except Refusal Found :=
  if spec.kind ≠ .counter && found.has spec.name then .error .usage
  else .ok { found with options := found.options ++ [(spec.name, none)] }

/-- Note an option with its value. -/
def noteValue (spec : OptionSpec) (value : String) (found : Found) : Except Refusal Found :=
  match spec.kind with
  | .value kind =>
    if kind.accepts value && !found.has spec.name then
      .ok { found with options := found.options ++ [(spec.name, some value)] }
    else .error .usage
  | .flag | .counter => .error .usage

/-- Note an argument. -/
def noteArgument (level : Level) (argument : String) (found : Found) : Except Refusal Found :=
  match level.arguments[found.arguments.length]?.or level.further with
  | some kind =>
    if kind.accepts argument then .ok { found with arguments := found.arguments ++ [argument] }
    else .error .usage
  | none => .error .usage

/-- Whether an option asks for something other than a command. -/
def asks (level : Level) (name : String) : Except Refusal Unit :=
  if name = "help" then .error .help
  else if name = "version" then .error (.version level.title)
  else .ok ()

/-- Go through a group of one-letter options.  The option at its end may wait for its value. -/
def scanShort (level : Level) (found : Found) :
    List Char → Except Refusal (Found × Option OptionSpec)
  | [] => .ok (found, none)
  | 'h' :: _ => .error .help
  | 'V' :: _ => .error (.version level.title)
  | letter :: rest =>
    match level.shortOption? letter with
    | none => .error .usage
    | some spec =>
      if spec.kind.takesValue then
        match rest with
        | [] => .ok (found, some spec)
        | '=' :: value | value => (noteValue spec (String.ofList value) found).map (·, none)
      else
        match noteFlag spec found with
        | .error refusal => .error refusal
        | .ok found => scanShort level found rest

/-- Take in a long option, whose value may follow an equals sign.  Otherwise it waits for it. -/
def scanLong (level : Level) (found : Found) (text : List Char) :
    Except Refusal (Found × Option OptionSpec) := do
  let name := String.ofList (text.takeWhile (· ≠ '='))
  let value := match text.dropWhile (· ≠ '=') with
    | _ :: value => some (String.ofList value)
    | [] => none
  if value.isNone then level.asks name
  match level.longOption? name with
  | none => .error .usage
  | some spec =>
    match value with
    | some value => .ok (← noteValue spec value found, none)
    | none =>
      if spec.kind.takesValue then .ok (found, some spec) else .ok (← noteFlag spec found, none)

/-- What an argument is, by the way it starts. -/
inductive Shape where
  | long (text : List Char)
  | short (letters : List Char)
  /-- Two hyphens, behind which there are no options. -/
  | endOfOptions
  | plain

def shapeOf (argument : String) : Shape :=
  match argument.toList with
  | ['-', '-'] => .endOfOptions
  | '-' :: '-' :: text => .long text
  | ['-'] => .plain
  | '-' :: letters => .short letters
  | _ => .plain

/-- Take in arguments behind the options. -/
def scanPlain (level : Level) (found : Found) : List String → Except Refusal Found
  | [] => .ok found
  | argument :: rest =>
    match level.noteArgument argument found with
    | .error refusal => .error refusal
    | .ok found => scanPlain level found rest

/-- Go through the arguments of a level, up to the name of a command.  `waiting` is an option whose
value comes next. -/
def scan (level : Level) (found : Found) (waiting : Option OptionSpec) :
    List String → Except Refusal (Found × Option (String × List String))
  | [] => if waiting.isSome then .error .usage else .ok (found, none)
  | argument :: rest =>
    match waiting, shapeOf argument with
    | some spec, .plain =>
      match noteValue spec argument found with
      | .error refusal => .error refusal
      | .ok found => scan level found none rest
    | some _, _ => .error .usage
    | none, .endOfOptions =>
      match scanPlain level found rest with
      | .error refusal => .error refusal
      | .ok found => .ok (found, none)
    | none, .long text =>
      match scanLong level found text with
      | .error refusal => .error refusal
      | .ok (found, waiting) => scan level found waiting rest
    | none, .short letters =>
      match scanShort level found letters with
      | .error refusal => .error refusal
      | .ok (found, waiting) => scan level found waiting rest
    | none, .plain =>
      if argument ∈ level.commands then .ok (found, some (argument, rest))
      else
        match level.noteArgument argument found with
        | .error refusal => .error refusal
        | .ok found => scan level found none rest

end Level

/-! ## The levels of the program -/

/-- The options that may stand anywhere. -/
def globalOptions : List OptionSpec :=
  [⟨"verbose", some 'v', .counter⟩, ⟨"quiet", some 'q', .flag⟩, ⟨"password", none, .value .text⟩,
    ⟨"password-stdin", none, .flag⟩, ⟨"key-hex", none, .value .text⟩,
    ⟨"config", none, .value .hostPath⟩]

/-- The commands: their options and the arguments that follow the container. -/
def commandTable : List (String × List OptionSpec × List ValueKind) :=
  [("init", [], []),
    ("ls", [⟨"long", some 'l', .flag⟩, ⟨"all", some 'a', .flag⟩, ⟨"json", none, .flag⟩], [.text]),
    ("cat", [], [.text]),
    ("write", [⟨"append", some 'a', .flag⟩], [.text]),
    ("mkdir", [⟨"parents", some 'p', .flag⟩, ⟨"mode", some 'm', .value .permissions⟩], [.text]),
    ("rm", [⟨"recursive", some 'r', .flag⟩, ⟨"force", some 'f', .flag⟩], [.text]),
    ("mv", [], [.text, .text]),
    ("stat", [⟨"json", none, .flag⟩], [.text]),
    ("df", [⟨"json", none, .flag⟩], []),
    ("chmod", [], [.permissions, .text])]

/-- The name of the program. -/
def programName : String := "oxvfs"

/-- The version of the program. -/
def programVersion : String := "0.1.0"

/-- What comes before the name of a command. -/
def programLevel : Level :=
  ⟨programName, globalOptions, [], none, "help" :: commandTable.map (·.1)⟩

/-- What comes behind the name of a command.  Any number of files can be shown. -/
def commandLevel (name : String) (options : List OptionSpec) (arguments : List ValueKind) : Level :=
  ⟨programName ++ "-" ++ name, globalOptions ++ options, .hostPath :: arguments,
    if name = "cat" then some .text else none, []⟩

/-- The command that the options and arguments behind its name make up. -/
def commandOf? (name : String) (found : Found) (arguments : List String) : Option Command :=
  match name, arguments with
  | "init", [] => some .init
  | "ls", [] => some (.ls "/" (found.has "long") (found.has "all") (found.has "json"))
  | "ls", [path] => some (.ls path (found.has "long") (found.has "all") (found.has "json"))
  | "cat", file :: files => some (.cat (file :: files))
  | "write", [path] => some (.write path (found.has "append"))
  | "mkdir", [path] =>
    match Permissions.parse ((found.value? "mode").getD "755") with
    | .ok mode => some (.mkdir path (found.has "parents") mode)
    | .error _ => none
  | "rm", [path] => some (.rm path (found.has "recursive") (found.has "force"))
  | "mv", [source, target] => some (.mv source target)
  | "stat", [path] => some (.stat path (found.has "json"))
  | "df", [] => some (.df (found.has "json"))
  | "chmod", [mode, path] =>
    match Permissions.parse mode with
    | .ok mode => some (.chmod mode path)
    | .error _ => none
  | _, _ => none

/-- What the user is told about a command line that runs no command. -/
def Refusal.text : Refusal → String
  | .version name => s!"{name} {programVersion}"
  | .usage | .help =>
    let names := ", ".intercalate (commandTable.map (·.1))
    s!"Usage: {programName} [OPTIONS] COMMAND CONTAINER [ARGUMENTS]\nCommands: {names}"

namespace Invocation

/-- Whether the command line is one that reads the input. -/
def readsInput (invocation : Invocation) : Bool :=
  invocation.secrets.passwordInput || match invocation.command with
    | .write _ _ => true
    | _ => false

/-- Whether the credentials of one level exclude each other.  A password of the environment counts
as given on every level. -/
def conflicting (environment : Option String) (found : Found) : Bool :=
  let password := found.has "password" || environment.isSome
  let input := found.has "password-stdin"
  (input && password) || (found.has "key-hex" && (password || input))

/-- The value of a global option.  The one behind the name of the command wins. -/
def global (outer inner : Found) (name : String) : Option String :=
  (inner.value? name).or (outer.value? name)

/-- The invocation that a command line makes up.  `environment` is the password of the
environment. -/
def parse (environment : Option String) (arguments : List String) :
    Except Refusal Invocation := do
  let (outer, rest) ← programLevel.scan ⟨[], []⟩ none arguments
  let some (name, rest) := rest | .error .usage
  if name = "help" then .error .help
  let some (_, options, kinds) := commandTable.find? (·.1 == name) | .error .usage
  let (inner, _) ← (commandLevel name options kinds).scan ⟨[], []⟩ none rest
  if conflicting environment outer || conflicting environment inner then .error .usage
  let container :: others := inner.arguments | .error .usage
  let some command := commandOf? name inner others | .error .usage
  .ok {
    container := container
    command := command
    secrets := {
      password := (global outer inner "password").or environment
      passwordInput := outer.has "password-stdin" || inner.has "password-stdin"
      keyHex := global outer inner "key-hex" }
    config := global outer inner "config" }

end Invocation

end Strongbox
