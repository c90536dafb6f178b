/-!
# Open flags

The flags of an `open` call, as a word of bits: how a file is to be accessed, whether it is created
when it is missing, and whether its content is dropped.
-/

namespace Strongbox

/-- The flags of an `open` call. -/
structure OpenFlags where
  bits : UInt32
  deriving DecidableEq, Repr

namespace OpenFlags

def readOnly : OpenFlags := ⟨0⟩
def writeOnly : OpenFlags := ⟨1⟩
def readWrite : OpenFlags := ⟨2⟩
def create : OpenFlags := ⟨64⟩
def exclusive : OpenFlags := ⟨128⟩
def truncate : OpenFlags := ⟨512⟩

/-- The flags of both. -/
def union (a b : OpenFlags) : OpenFlags :=
  ⟨a.bits ||| b.bits⟩

/-- Whether every flag of `b` is one of `a`. -/
def contains (a b : OpenFlags) : Bool :=
  a.bits &&& b.bits == b.bits

/-- Whether the file is opened for more than reading. -/
def writes (flags : OpenFlags) : Bool :=
  flags.bits &&& 3 != 0

end OpenFlags

/-- What an `access` call asks for, as a word of bits; zero asks for existence only. -/
structure AccessMode where
  bits : UInt32
  deriving DecidableEq, Repr

namespace AccessMode

def existence : AccessMode := ⟨0⟩

/-- The permission bits that are asked for. -/
def wanted (mode : AccessMode) : Nat :=
  (mode.bits &&& 7).toNat

end AccessMode

end Strongbox
