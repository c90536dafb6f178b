import Strongbox.Fault
import Strongbox.Bytes

/-!
# Expectations

Checks on the outcome of a call that say in words what was expected and what came instead.  They
name errors and byte positions and never show whole contents.
-/

namespace Strongbox.Expectation

/-- A byte as two hexadecimal digits. -/
def byteText (b : UInt8) : String :=
  "0x" ++ Bytes.toHex [b]

/-- The first position at which two strings of bytes differ, with the two bytes. -/
def firstDifference? : Nat → Bytes → Bytes → Option (Nat × UInt8 × UInt8)
  | position, a :: as, b :: bs =>
    if a = b then firstDifference? (position + 1) as bs else some (position, a, b)
  | _, _, _ => none

/-- Expect two strings of bytes to be equal. -/
def sameBytes (actual expected : Bytes) (context : String) : Except String Unit :=
  if actual.length ≠ expected.length then
    .error (s!"{context}: size mismatch - expected {expected.length} bytes, "
      ++ s!"got {actual.length} bytes")
  else match firstDifference? 0 actual expected with
    | none => .ok ()
    | some (position, a, e) =>
      .error (s!"{context}: content mismatch at byte {position} - "
        ++ s!"expected {byteText e}, got {byteText a}")

/-- An outcome spelled out. -/
def outcomeText (outcome : Except Fault Nat) : String :=
  match outcome with
  | .ok value => s!"Ok({value})"
  | .error fault => s!"Err({fault.debugText})"

/-- Expect a failure with an error number. -/
def failure (outcome : Except Fault Nat) (expected : Errno) (context : String) :
    Except String Unit :=
  match outcome with
  | .ok value =>
    .error s!"{context}: expected {expected.symbol} but got success with {value}"
  | .error fault =>
    if fault.isErrno expected then .ok ()
    else .error s!"{context}: expected {expected.symbol}, got {fault.message}"

/-- Expect a failure because of the state of the session. -/
def illegalState (outcome : Except Fault Nat) (context : String) : Except String Unit :=
  match outcome with
  | .error (.illegalState _) => .ok ()
  | other => .error s!"{context}: expected IllegalState, got {outcomeText other}"

/-- Expect bad input to be refused, and give the reason. -/
def invalidArgument (outcome : Except Fault Nat) (context : String) : Except String String :=
  match outcome with
  | .error (.invalidArgument reason) => .ok reason.message
  | other => .error s!"{context}: expected InvalidArgument, got {outcomeText other}"

end Strongbox.Expectation
