import Strongbox.Errno

/-!
# Host failures

Why the host's file system refused a request: an error number, or a path that is no path at all.
-/

namespace Strongbox

/-- A failure of the host's file system. -/
inductive HostError where
  /-- The host answered with an error number. -/
  | os (code : Errno)
  /-- The path holds a NUL. -/
  | nulInPath
  /-- The path is empty, so it cannot be made absolute. -/
  | emptyPath
  deriving DecidableEq, Repr

namespace HostError

/-- The host's wording of an error number. -/
def osText (code : Errno) : String :=
  s!"{code.systemText} (os error {code.number})"

def message : HostError → String
  | .os code => osText code
  | .nulInPath => "file name contained an unexpected NUL byte"
  | .emptyPath => "cannot make an empty path absolute"

def kind : HostError → IoKind
  | .os code => code.kind
  | .nulInPath | .emptyPath => .invalidInput

/-- The error number of a failure, if the host gave one. -/
def errno? : HostError → Option Errno
  | .os code => some code
  | .nulInPath | .emptyPath => none

end HostError

end Strongbox
