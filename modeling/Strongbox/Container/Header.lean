import Strongbox.Bytes.Base64
import Strongbox.Cipher
import Strongbox.Json.Record

/-!
# Container headers

The header of a container says how its key is obtained and under which nonce the payload was
encrypted.  It is a JSON record that is not encrypted but authenticated with the payload.

* `Header.encode` writes a header and `Header.decode` reads one.
* `EngineConfig.decode` reads the configuration of an engine, which shares the cost record.
-/

namespace Strongbox

/-! ## Cost parameters -/

namespace Scrypt.Params

/-- The JSON record of cost parameters. -/
def toJson (cost : Params) : Json :=
  .object [(Json.ascii "log_n", .ofNat cost.logN), (Json.ascii "r", .ofNat cost.r),
    (Json.ascii "p", .ofNat cost.p)]

/-- Cost parameters are a byte and two 32-bit words, all of them required. -/
def ofJson? (json : Json) : Option Params := do
  let [some logN, some r, some p] ← Json.record? .ignored ["log_n", "r", "p"] json | none
  some ⟨← logN.nat? UInt8.size, ← r.nat? UInt32.size, ← p.nat? UInt32.size⟩

end Scrypt.Params

/-! ## Headers -/

/-- The word for a kind of credential. -/
def CredentialKind.word : CredentialKind → String
  | .password => "password"
  | .key => "key"

/-- The kind of credential with a given word. -/
def CredentialKind.ofWord? (word : String) : Option CredentialKind :=
  if word = "password" then some .password else if word = "key" then some .key else none

/-- A kind is written as its word, and may also be an object with that word as the name of a single
`null` field. -/
def CredentialKind.ofJson? : Json → Option CredentialKind
  | .string token => (Json.tokenText? token).bind ofWord?
  | .object [(token, .null)] => (Json.tokenText? token).bind ofWord?
  | _ => none

/-- The header of a container.  Password containers have a salt and cost parameters. -/
structure Header where
  credential : CredentialKind
  salt : Option Bytes
  cost : Option Scrypt.Params
  nonce : Bytes
  deriving DecidableEq, Repr

/-- Bytes as a Base64 string. -/
def base64Json (bytes : Bytes) : Json :=
  .string (Base64.encode bytes)

/-- The bytes of a Base64 string. -/
def base64OfJson? : Json → Option Bytes
  | .string token => (Json.unescape token).bind Base64.decode
  | _ => none

/-- Read a field that may be missing or `null`. -/
def optional (read : Json → Option α) : Option Json → Option (Option α)
  | none | some .null => some none
  | some json => (read json).map some

namespace Header

/-- The JSON record of a header; fields without a value are left out. -/
def toJson (header : Header) : Json :=
  .object ([(Json.ascii "credential", .string (Json.ascii header.credential.word))]
    ++ (header.salt.map fun salt => (Json.ascii "salt", base64Json salt)).toList
    ++ (header.cost.map fun cost => (Json.ascii "kdf", cost.toJson)).toList
    ++ [(Json.ascii "nonce", base64Json header.nonce)])

def ofJson? (json : Json) : Option Header := do
  let [some credential, salt, cost, some nonce] ←
    Json.record? .ignored ["credential", "salt", "kdf", "nonce"] json | none
  some {
    credential := ← CredentialKind.ofJson? credential
    salt := ← optional base64OfJson? salt
    cost := ← optional Scrypt.Params.ofJson? cost
    nonce := ← base64OfJson? nonce }

/-- The bytes of a header. -/
def encode (header : Header) : Bytes :=
  header.toJson.render

/-- The header with given bytes, also if other software wrote them. -/
def decode (bytes : Bytes) : Option Header :=
  (Json.parse bytes).bind ofJson?

end Header

/-! ## Configuration -/

/-- What an engine can be configured with: the cost of new password containers. -/
structure EngineConfig where
  cost : Scrypt.Params
  deriving DecidableEq, Repr

namespace EngineConfig

def standard : EngineConfig := ⟨.standard⟩

/-- The configuration that a JSON text gives.  What it leaves out is standard. -/
def decode (text : Bytes) : Option EngineConfig := do
  let [cost] ← Json.record? .ignored ["kdf"] (← Json.parse text) | none
  match cost with
  | none => some standard
  | some json => (Scrypt.Params.ofJson? json).map EngineConfig.mk

end EngineConfig

end Strongbox
