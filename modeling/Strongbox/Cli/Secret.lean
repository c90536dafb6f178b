import Strongbox.Cli.Failure
import Strongbox.Credential

/-!
# Credentials on the command line

A container is unlocked by a raw key in hexadecimal, by a password in the first line of the input,
or by a password given as it is, in this order of preference.
-/

namespace Strongbox

/-- The credentials that the user gave. -/
structure SecretOptions where
  password : Option String
  /-- Whether the password is the first line of the input. -/
  passwordInput : Bool
  keyHex : Option String
  deriving DecidableEq, Repr

namespace SecretOptions

/-- The first line of the input, with its end, and the rest. -/
def splitLine (input : Bytes) : Bytes × Bytes :=
  match input.dropWhile (· ≠ 10) with
  | [] => (input, [])
  | newline :: rest => (input.takeWhile (· ≠ 10) ++ [newline], rest)

/-- The password that a line gives. -/
def passwordOfLine (line : Bytes) : Except Failure String :=
  match Bytes.toText? line with
  | none => .error ⟨[.notText]⟩
  | some text =>
    match Text.trimEndChars (fun c => c == '\n' || c == '\r') text.toList with
    | [] => .error ⟨[.emptyPassword]⟩
    | password => .ok (String.ofList password)

/-- The credential, and the input that is left.  Without any credential the user would have to be
asked, and an empty password stands for the missing answer. -/
def resolve (options : SecretOptions) (input : Bytes) : Except Failure (Credential × Bytes) :=
  match options.keyHex with
  | some digits =>
    match Bytes.ofHex (Text.trim digits) with
    | .ok key => .ok (.key key, input)
    | .error error => .error ⟨[.badKey error, .badHex error]⟩
  | none =>
    if options.passwordInput then
      let (line, rest) := splitLine input
      (passwordOfLine line).map fun password => (.password password, rest)
    else
      match options.password with
      | some password => .ok (.password password, input)
      | none => .error (.because "No credential given")

end SecretOptions

end Strongbox
