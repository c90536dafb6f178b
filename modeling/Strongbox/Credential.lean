import Strongbox.Fault
import Strongbox.Text.Blank
import Strongbox.Bytes

/-!
# Credentials

A container is unlocked by a password or by a raw key.  `Credential.validate` refuses the ones that
cannot unlock anything before a container is touched: a key of the wrong length and a password of
nothing but blanks.
-/

namespace Strongbox

/-- How a container's key is obtained. -/
inductive CredentialKind where
  | password
  | key
  deriving DecidableEq, Repr

/-- The name of a kind where kinds are compared for the user. -/
def CredentialKind.title : CredentialKind → String
  | .password => "Password"
  | .key => "Key"

/-- What unlocks a container. -/
inductive Credential where
  | password (text : String)
  | key (bytes : Bytes)
  deriving DecidableEq, Repr

namespace Credential

def kind : Credential → CredentialKind
  | .password _ => .password
  | .key _ => .key

/-- The credential with its secret left out. -/
def redacted : Credential → String
  | .password _ => "Password([REDACTED])"
  | .key bytes => s!"Key([REDACTED; {bytes.length}])"

/-- Refuse a raw key of the wrong length. -/
def validateKeyLength (length : Nat) : Except Fault Unit :=
  if length = rawKeyLength then .ok () else .error (.invalidArgument (.keyLength length))

/-- Refuse a blank password. -/
def validatePassword (text : String) : Except Fault Unit :=
  if Text.allBlank text then .error (.invalidArgument .blankPassword) else .ok ()

/-- Refuse a credential that cannot unlock a container. -/
def validate : Credential → Except Fault Unit
  | .password text => validatePassword text
  | .key bytes => validateKeyLength bytes.length

end Credential

end Strongbox
