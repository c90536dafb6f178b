import Strongbox.Json.Reader

/-!
# Records in JSON

A record is written as an object, and may also be written as an array of its fields in their order.
A field may be missing, which the reader of the record decides about, but none may be written twice.

* `Json.record?` finds the fields of a record.
* `Json.isPlain` says that every token of a value means something.
-/

namespace Strongbox.Json

/-- What becomes of fields that a record does not have. -/
inductive Strangers where
  | ignored
  | refused
  deriving DecidableEq

/-- The fields with a name. -/
def named (name : String) (fields : List (String × Json)) : List Json :=
  (fields.filter (·.1 == name)).map (·.2)

/-- The fields of an object, with the texts of their names. -/
def namedFields? (fields : List (Bytes × Json)) : Option (List (String × Json)) :=
  fields.mapM fun (token, value) => (tokenText? token).map (·, value)

/-- The one field with a name, or none; two are refused. -/
def single? : List Json → Option (Option Json)
  | [] => some none
  | [value] => some (some value)
  | _ => none

/-- The fields of a record, in the order of `names`. -/
def record? (strangers : Strangers) (names : List String) : Json → Option (List (Option Json))
  | .object fields => do
    let fields ← namedFields? fields
    if strangers = .refused ∧ !(fields.all fun field => names.contains field.1) then none
    names.mapM fun name => single? (named name fields)
  | .array items =>
    if items.length ≤ names.length then
      some (items.map some ++ List.replicate (names.length - items.length) none)
    else none
  | _ => none

mutual

/-- Whether every string has a text and every number is in range. -/
def isPlain : Json → Bool
  | .number token => numberFits token
  | .string token => (tokenText? token).isSome
  | .array items => allPlain items
  | .object fields => fieldsPlain fields
  | _ => true
termination_by structural value => value

def allPlain : List Json → Bool
  | [] => true
  | item :: items => isPlain item && allPlain items
termination_by structural items => items

def fieldsPlain : List (Bytes × Json) → Bool
  | [] => true
  | field :: fields => fieldPlain field && fieldsPlain fields
termination_by structural fields => fields

def fieldPlain : Bytes × Json → Bool
  | (name, value) => (tokenText? name).isSome && isPlain value
termination_by structural field => field

end

end Strongbox.Json
