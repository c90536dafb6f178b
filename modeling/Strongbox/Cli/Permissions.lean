import Strongbox.FileStat
import Strongbox.Text.Quoted

/-!
# Permissions on the command line

Permission bits are given in octal, with or without `0o` in front.
-/

namespace Strongbox.Permissions

/-- Why a text is no number. -/
inductive NumberFault where
  | empty
  | badDigit
  | tooLarge
  deriving DecidableEq, Repr

def NumberFault.message : NumberFault → String
  | .empty => "cannot parse integer from empty string"
  | .badDigit => "invalid digit found in string"
  | .tooLarge => "number too large to fit in target type"

/-- Why a text gives no permission bits. -/
inductive PermissionFault where
  | notOctal (text : String) (reason : NumberFault)
  | outOfRange (text : String)
  deriving DecidableEq, Repr

def PermissionFault.message : PermissionFault → String
  | .notOctal text reason => s!"invalid octal mode {Text.quoted text}: {reason.message}"
  | .outOfRange text => s!"mode {text} out of range"

/-- The value of an octal digit. -/
def octalDigit? (c : Char) : Option Nat :=
  if '0' ≤ c ∧ c ≤ '7' then some (c.toNat - 48) else none

/-- Read digits behind the number that those before them write.  The first digit that is wrong or
too much decides. -/
def readDigits (value : Nat) : List Char → Except NumberFault Nat
  | [] => .ok value
  | c :: rest =>
    match octalDigit? c with
    | none => .error .badDigit
    | some digit =>
      if UInt32.size ≤ value * 8 then .error .tooLarge else readDigits (value * 8 + digit) rest

/-- Read a number of 32 bits, which may have a plus sign in front. -/
def readOctal : List Char → Except NumberFault Nat
  | [] => .error .empty
  | ['+'] => .error .badDigit
  | '+' :: digits => readDigits 0 digits
  | digits => readDigits 0 digits

/-- The digits of a number without `0o` in front of them. -/
def withoutMark : List Char → List Char
  | '0' :: 'o' :: digits => digits
  | digits => digits

/-- The permission bits that a text gives. -/
def parse (text : String) : Except PermissionFault Nat :=
  match readOctal (withoutMark text.toList) with
  | .error reason => .error (.notOctal text reason)
  | .ok mode => if permissionMask < mode then .error (.outOfRange text) else .ok mode

end Strongbox.Permissions
