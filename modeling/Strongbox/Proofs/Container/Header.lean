import Strongbox.Container.Header
import Strongbox.Proofs.Json.Record

/-!
# Headers written and read back

The header of a container file is read back as it was written, whichever of its fields have a value.
Cost parameters are machine words, and the reader refuses what no word holds.

* `Scrypt.Params.ofJson?_toJson`, `base64OfJson?_base64Json` — the parts of a header.
* **`Header.decode_of_encode`** — the whole header.
-/

namespace Strongbox

open Json

/-! ## Cost parameters -/

namespace Scrypt.Params

/-- Cost parameters that are kept in a byte and two words. -/
structure Storable (cost : Params) : Prop where
  logN : cost.logN < UInt8.size
  r : cost.r < UInt32.size
  p : cost.p < UInt32.size

instance (cost : Params) : Decidable cost.Storable :=
  decidable_of_iff (cost.logN < UInt8.size ∧ cost.r < UInt32.size ∧ cost.p < UInt32.size)
    ⟨fun ⟨hlogN, hr, hp⟩ => ⟨hlogN, hr, hp⟩, fun h => ⟨h.logN, h.r, h.p⟩⟩

/-- The names of the fields of cost parameters. -/
def fieldNames : List String :=
  ["log_n", "r", "p"]

lemma plain_fieldNames : ∀ name ∈ fieldNames, IsPlainText name := by decide

lemma toJson_eq (cost : Params) : cost.toJson = written
    [("log_n", .ofNat cost.logN), ("r", .ofNat cost.r), ("p", .ofNat cost.p)] := rfl

lemma proper_toJson (cost : Params) : Proper cost.toJson := by
  rw [toJson_eq]
  refine proper_written fieldNames rfl plain_fieldNames ?_
  simp [proper_ofNat]

lemma ofJson?_toJson {cost : Params} (h : cost.Storable) : ofJson? cost.toJson = some cost := by
  have hrecord : record? .ignored fieldNames cost.toJson
      = some [some (.ofNat cost.logN), some (.ofNat cost.r), some (.ofNat cost.p)] := by
    rw [toJson_eq]
    exact record?_written .ignored fieldNames rfl plain_fieldNames (by decide) fun _ h => h
  rw [fieldNames] at hrecord
  simp only [ofJson?, hrecord, Option.bind_eq_bind, Option.bind_some, nat?_ofNat h.logN,
    nat?_ofNat h.r, nat?_ofNat h.p]

end Scrypt.Params

/-! ## Bytes -/

lemma proper_base64Json (bytes : Bytes) : Proper (base64Json bytes) := by
  obtain ⟨text, hplain, he⟩ := exists_base64_text bytes
  rw [base64Json, he]
  exact proper_ascii hplain

lemma base64OfJson?_base64Json (bytes : Bytes) : base64OfJson? (base64Json bytes) = some bytes := by
  obtain ⟨text, hplain, he⟩ := exists_base64_text bytes
  have hdecode := Base64.decode_encode bytes
  rw [he] at hdecode
  rw [base64Json, base64OfJson?, he, unescape_plain (plain_ascii hplain), Option.bind_some, hdecode]

/-! ## Headers -/

namespace CredentialKind

lemma plain_word (kind : CredentialKind) : IsPlainText kind.word := by
  cases kind <;> decide

lemma ofJson?_word (kind : CredentialKind) : ofJson? (.string (ascii kind.word)) = some kind := by
  rw [ofJson?, tokenText?_ascii kind.plain_word]
  cases kind <;> rfl

end CredentialKind

namespace Header

/-- The cost parameters of a header, if there are any, are machine words. -/
def Storable (header : Header) : Prop :=
  ∀ cost, header.cost = some cost → cost.Storable

/-- The names of the fields of a header. -/
def fieldNames : List String :=
  ["credential", "salt", "kdf", "nonce"]

/-- The fields of a header that have a value. -/
def fields (header : Header) : List (String × Json) :=
  [("credential", .string (ascii header.credential.word))]
    ++ (header.salt.map fun salt => ("salt", base64Json salt)).toList
    ++ (header.cost.map fun cost => ("kdf", cost.toJson)).toList
    ++ [("nonce", base64Json header.nonce)]

lemma toJson_eq (header : Header) : header.toJson = written header.fields := by
  obtain ⟨credential, salt, cost, nonce⟩ := header
  cases salt <;> cases cost <;> rfl

/-- The fields with a value are fields of a header, each at most once. -/
lemma names_sublist (header : Header) : (header.fields.map (·.1)).Sublist fieldNames := by
  obtain ⟨credential, salt, cost, nonce⟩ := header
  have hnone : ["credential", "nonce"].Sublist fieldNames := by decide
  have hsalt : ["credential", "salt", "nonce"].Sublist fieldNames := by decide
  have hcost : ["credential", "kdf", "nonce"].Sublist fieldNames := by decide
  cases salt with
  | none => cases cost with
    | none => exact hnone
    | some cost => exact hcost
  | some salt => cases cost with
    | none => exact hsalt
    | some cost => exact List.Sublist.refl _

lemma plain_names (header : Header) : ∀ name ∈ header.fields.map (·.1), IsPlainText name :=
  fun name h => (by decide : ∀ name ∈ fieldNames, IsPlainText name) name
    (header.names_sublist.subset h)

lemma proper_toJson (header : Header) : Proper header.toJson := by
  rw [toJson_eq]
  refine proper_written _ rfl header.plain_names ?_
  intro field hfield
  simp only [fields, List.mem_append, List.mem_singleton, Option.mem_toList,
    Option.map_eq_some_iff] at hfield
  rcases hfield with ((rfl | ⟨salt, -, rfl⟩) | ⟨cost, -, rfl⟩) | rfl
  · exact proper_ascii header.credential.plain_word
  · exact proper_base64Json salt
  · exact cost.proper_toJson
  · exact proper_base64Json header.nonce

/-- A header is read back as it was written. -/
theorem decode_of_encode {header : Header} (h : header.Storable) :
    decode header.encode = some header := by
  have hrecord : record? .ignored fieldNames header.toJson
      = some [some (.string (ascii header.credential.word)), header.salt.map base64Json,
        header.cost.map Scrypt.Params.toJson, some (base64Json header.nonce)] := by
    rw [toJson_eq, record?_written .ignored _ rfl header.plain_names
      (header.names_sublist.nodup (by decide)) header.names_sublist.subset]
    obtain ⟨credential, salt, cost, nonce⟩ := header
    cases salt <;> cases cost <;> rfl
  have hsalt : optional base64OfJson? (header.salt.map base64Json) = some header.salt := by
    cases header.salt with
    | none => rfl
    | some salt =>
        show (base64OfJson? (base64Json salt)).map some = _
        rw [base64OfJson?_base64Json, Option.map_some]
  have hcost : optional Scrypt.Params.ofJson? (header.cost.map Scrypt.Params.toJson)
      = some header.cost := by
    cases hc : header.cost with
    | none => rfl
    | some cost =>
        show (Scrypt.Params.ofJson? cost.toJson).map some = _
        rw [Scrypt.Params.ofJson?_toJson (h cost hc), Option.map_some]
  rw [fieldNames] at hrecord
  rw [decode, encode, parse_render header.proper_toJson, Option.bind_some, ofJson?, hrecord]
  simp only [Option.bind_eq_bind, Option.bind_some, CredentialKind.ofJson?_word, hsalt, hcost,
    base64OfJson?_base64Json]

end Header

end Strongbox
