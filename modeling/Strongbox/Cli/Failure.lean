import Strongbox.Bytes
import Strongbox.Fault

/-!
# Failures of a command

A command fails for a chain of reasons, outermost first.  Users see the whole chain in one line, and
other programs see an exit code that the first telling reason decides.  The causes of a fault are
told but decide nothing.

* `Failure.message` is the line, and `Failure.exitCode` the code.
-/

namespace Strongbox

/-- One reason of a failed command. -/
inductive Reason where
  /-- What the command tried to do. -/
  | note (text : String)
  | fault (fault : Fault)
  /-- A fault that led to the one before it. -/
  | cause (fault : Fault)
  | stream (error : StreamError)
  | host (error : HostError)
  /-- Input that should be text is none. -/
  | notText
  /-- A raw key that is not written in hexadecimal. -/
  | badKey (error : Bytes.HexError)
  /-- What is wrong with hexadecimal digits. -/
  | badHex (error : Bytes.HexError)
  | emptyPassword
  deriving DecidableEq, Repr

/-- The wording of wrong hexadecimal digits.  A byte is shown as the character with its code. -/
def Bytes.HexError.message : Bytes.HexError → String
  | .oddLength => "Odd number of digits"
  | .badDigit byte position =>
    s!"Invalid character {Text.quotedChar (Char.ofNat byte.toNat)} at position {position}"

namespace Reason

def message : Reason → String
  | .note text => text
  | .fault f | .cause f => f.message
  | .stream error => error.message
  | .host error => error.message
  | .notText => "stream did not contain valid UTF-8"
  | .badKey error => s!"Invalid --key-hex value: {error.message}"
  | .badHex error => error.message
  | .emptyPassword => "Password from stdin is empty"

end Reason

/-! ## Exit codes -/

namespace ExitCode

def success : Nat := 0
def generalError : Nat := 1

/-- A wrong password or key. -/
def authenticationFailed : Nat := 2

/-- A command line that makes no sense. -/
def usage : Nat := 2

/-- A missing container, or a missing path in one. -/
def notFound : Nat := 3

end ExitCode

/-- Whether a text holds another one. -/
def holds (part : List Char) : List Char → Bool
  | [] => part.isEmpty
  | c :: rest => part.isPrefixOf (c :: rest) || holds part rest

namespace Reason

/-- The exit code that a reason decides on, if it does. -/
def exitCode? : Reason → Option Nat
  | .fault (.invalidArgument reason) =>
    let text := reason.message.toList
    if "bad credential".toList.isPrefixOf text then some ExitCode.authenticationFailed
    else if holds "does not exist".toList text then some ExitCode.notFound
    else none
  | .fault (.failed _ code) | .fault (.failedAfter _ code _) =>
    if code = .noEntry then some ExitCode.notFound else none
  | .badKey _ => some ExitCode.authenticationFailed
  | .emptyPassword => some ExitCode.generalError
  | .stream error => if error.kind = .notFound then some ExitCode.notFound else none
  | .host error => if error.kind = .notFound then some ExitCode.notFound else none
  | .fault _ | .cause _ | .note _ | .notText | .badHex _ => none

end Reason

/-! ## Failures -/

/-- A failed command, with its reasons outermost first. -/
structure Failure where
  reasons : List Reason
  deriving DecidableEq, Repr

namespace Failure

/-- A failure with a reason of its own. -/
def because (text : String) : Failure :=
  ⟨[.note text]⟩

/-- A fault, with the faults that led to it. -/
def ofFault (fault : Fault) : Failure :=
  ⟨.fault fault :: fault.chain.tail.map .cause⟩

def ofStream (error : StreamError) : Failure :=
  ⟨[.stream error]⟩

/-- The failure of what a command tried to do. -/
def whenTrying (text : String) (failure : Failure) : Failure :=
  ⟨.note text :: failure.reasons⟩

/-- All reasons in one line. -/
def message (failure : Failure) : String :=
  ": ".intercalate (failure.reasons.map Reason.message)

/-- The code of the first reason that decides on one. -/
def exitCode (failure : Failure) : Nat :=
  (failure.reasons.findSome? Reason.exitCode?).getD ExitCode.generalError

end Failure

end Strongbox
