import Strongbox.Container.Header
import Strongbox.Host

/-!
# Container files

A container file is the magic, the length of the header as a 32-bit number, the header, and the
encrypted payload up to the end of the file.

* `Frame.layOut` puts the parts together and `Frame.parse` takes them apart.
* `Frame.read` and `Frame.write` do so with a file of the host.
-/

namespace Strongbox

/-- Why a container file could not be read or written. -/
inductive FrameError where
  | host (error : HostError)
  | badMagic
  | truncated
  | invalidHeader
  | invalidNonce (length : Nat)
  | headerTooLarge
  deriving DecidableEq, Repr

def FrameError.message : FrameError → String
  | .host error => s!"IO error: {error.message}"
  | .badMagic => "Not an oxvfs container (bad magic)"
  | .truncated => "Container is truncated"
  | .invalidHeader => "Invalid container header"
  | .invalidNonce length => s!"Invalid nonce length: expected {nonceLength}, got {length}"
  | .headerTooLarge => "IO error: container header too large"

/-- A container file taken apart. -/
structure Frame where
  header : Header
  /-- The header as it is written, which is authenticated with the payload. -/
  headerBytes : Bytes
  ciphertext : Bytes
  deriving DecidableEq, Repr

namespace Frame

/-- What every container file starts with. -/
def magic : Bytes :=
  [79, 88, 86, 70, 83, 0, 1, 0]

/-- How many bytes the length of the header takes. -/
def lengthField : Nat := 4

/-- The nonce of a header, whose length is not part of the header's form. -/
def nonce (header : Header) : Except FrameError Nonce :=
  match Nonce.ofBytes? header.nonce with
  | some nonce => .ok nonce
  | none => .error (.invalidNonce header.nonce.length)

/-- The content of a container file. -/
def layOut (headerBytes ciphertext : Bytes) : Bytes :=
  magic ++ Bytes.ofUInt32 (UInt32.ofNat headerBytes.length) ++ headerBytes ++ ciphertext

/-- Take the part behind the magic apart. -/
def parseBody : Bytes → Except FrameError Frame
  | b₀ :: b₁ :: b₂ :: b₃ :: rest =>
    let length := (Bytes.toUInt32 b₀ b₁ b₂ b₃).toNat
    if rest.length < length then .error .truncated
    else do
      let headerBytes := rest.take length
      let some header := Header.decode headerBytes | .error .invalidHeader
      let _ ← nonce header
      .ok ⟨header, headerBytes, rest.drop length⟩
  | _ => .error .truncated

/-- Take a container file apart.  A file that breaks off within the magic counts as truncated. -/
def parse (content : Bytes) : Except FrameError Frame :=
  if content.length < magic.length + lengthField then
    if (magic.take content.length).isPrefixOf content then .error .truncated else .error .badMagic
  else if content.take magic.length = magic then parseBody (content.drop magic.length)
  else .error .badMagic

/-- Read a container file.  A missing or empty file holds no container yet. -/
def read (host : Host) (path : String) : Except FrameError (Option Frame) :=
  match host.read path with
  | .error (.os code) => if code = .noEntry then .ok none else .error (.host (.os code))
  | .error error => .error (.host error)
  | .ok [] => .ok none
  | .ok content => (parse content).map some

/-- Replace a container file. -/
def write (host : Host) (path : String) (headerBytes ciphertext : Bytes) :
    Except FrameError Host :=
  if UInt32.size ≤ headerBytes.length then .error .headerTooLarge
  else (host.replaceFile path (layOut headerBytes ciphertext)).mapError .host

end Frame

end Strongbox
