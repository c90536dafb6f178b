import Std.Data.ExtTreeMap
import Std.Data.ExtTreeSet

/-!
# Handles

An engine counts who works with its container.  A credential open gives out an *explicit* handle,
which stays until it is closed.  A thread that works with the container and owns no explicit handle
has an *implicit* one, which ends with the thread.

* `Registry.issue` gives out a handle with a number that no open handle has.
* `Registry.touch` notes that a thread works with the container.
* `Registry.exit` is the end of a thread.
-/

namespace Strongbox

/-- A thread, by a number that no other thread has ever had. -/
abbrev Thread := Nat

/-- The thread that a program starts with. -/
def mainThread : Thread := 0

/-- An explicit handle.  The number zero is never given out. -/
structure Handle where
  id : UInt64
  deriving DecidableEq, Repr

namespace Handle

/-- The handle as it is shown, such as `#1`. -/
def text (handle : Handle) : String :=
  s!"#{handle.id}"

end Handle

/-- Who works with a container. -/
structure Registry where
  /-- The thread that opened each explicit handle. -/
  explicit : Std.ExtTreeMap UInt64 Thread
  /-- The threads with an implicit handle. -/
  implicit : Std.ExtTreeSet Nat
  /-- The threads whose end the registry will learn of. -/
  watched : Std.ExtTreeSet Nat
  /-- The number that is tried first for the next handle. -/
  nextId : UInt64
  deriving DecidableEq

namespace Registry

def empty : Registry :=
  ⟨∅, ∅, ∅, 1⟩

/-- The first usable number from `id` on: neither zero nor that of an open handle.  One number is
passed over for each unit of fuel. -/
def freeFrom (explicit : Std.ExtTreeMap UInt64 Thread) : Nat → UInt64 → UInt64
  | 0, id => id
  | fuel + 1, id => if id = 0 ∨ id ∈ explicit then freeFrom explicit fuel (id + 1) else id

/-- The number of the next handle.  At most the open handles and zero have to be passed over. -/
def freeId (r : Registry) : UInt64 :=
  freeFrom r.explicit (r.explicit.size + 1) r.nextId

/-- Give out an explicit handle, which takes the place of the thread's implicit one. -/
def issue (r : Registry) (thread : Thread) : Handle × Registry :=
  (⟨r.freeId⟩,
    { r with
      explicit := r.explicit.insert r.freeId thread
      implicit := r.implicit.erase thread
      nextId := r.freeId + 1 })

/-- Take an explicit handle back, and tell how many are left.  A handle that is not open stays
unnoticed. -/
def close (r : Registry) (handle : Handle) : Option Nat × Registry :=
  if handle.id ∈ r.explicit then
    let left := r.explicit.erase handle.id
    (some left.size, { r with explicit := left })
  else (none, r)

/-- Whether a thread owns an explicit handle. -/
def owns (r : Registry) (thread : Thread) : Bool :=
  r.explicit.toList.any fun (_, owner) => owner == thread

/-- Note that a thread works with the container. -/
def touch (r : Registry) (thread : Thread) : Registry :=
  if r.owns thread ∨ thread ∈ r.implicit then r
  else { r with implicit := r.implicit.insert thread, watched := r.watched.insert thread }

/-- The end of a thread.  An explicit handle of the thread stays open. -/
def exit (r : Registry) (thread : Thread) : Registry :=
  if thread ∈ r.watched then
    { r with implicit := r.implicit.erase thread, watched := r.watched.erase thread }
  else r

/-- Forget all implicit handles, as their container is closed. -/
def clearImplicit (r : Registry) : Registry :=
  { r with implicit := ∅ }

/-- The number of handles of either sort. -/
def count (r : Registry) : Nat :=
  r.explicit.size + r.implicit.size

end Registry

end Strongbox
