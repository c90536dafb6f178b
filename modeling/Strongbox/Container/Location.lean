import Strongbox.Fault
import Strongbox.Host
import Strongbox.Text.Blank

/-!
# Where a container may lie

Checks on the path of a container.  They look at the host but change nothing on it.

* `Location.validate` accepts a path that could hold a container.
* `Location.validateReadWrite` accepts a path that holds one.
-/

namespace Strongbox.Location

/-- The cleaned form of a container path. -/
def absolute (path : String) : Except Fault String :=
  (HostPath.absolute path).mapError fun error => .invalidArgument (.unresolvedPath path error)

/-- Accept a path that is not blank and whose parent is a directory that the user may read and write
in. -/
def validate (host : Host) (path : String) : Except Fault Unit := do
  if Text.allBlank path then .error (.invalidArgument .blankPath)
  let resolved ← absolute path
  let some parent := HostPath.parent? resolved | .error (.invalidArgument (.noParent resolved))
  match host.node parent with
  | .error error => .error (.invalidArgument (.unreachable parent error))
  | .ok (.file _ _) => .error (.invalidArgument (.notDirectory parent))
  | .ok (.directory _) =>
    if !(host.access parent).read then .error (.invalidArgument (.unreadable parent))
    else if !(host.access parent).write then .error (.invalidArgument (.unwritable parent))
    else .ok ()

/-- Accept a path that leads to something on the host that the user may read and write. -/
def validateReadWrite (host : Host) (path : String) : Except Fault Unit :=
  if !(host.access path).read then .error (.invalidArgument (.containerUnreadable path))
  else if !(host.access path).write then .error (.invalidArgument (.containerUnwritable path))
  else .ok ()

end Strongbox.Location
