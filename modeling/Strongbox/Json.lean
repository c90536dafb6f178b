import Strongbox.Bytes

/-!
# JSON documents

The header and the payload of a container are JSON texts, handled as bytes.  A `Json` value keeps
its tokens as they are written: a number with all its digits, and a string with its escapes.  What a
token means is asked separately (`Json.nat?`, `Json.text?`), and a field that nobody asks for need
not mean anything.

* `Json.render` writes a value without blanks.
* `Json.pretty` writes it over several lines, for people.
-/

namespace Strongbox

/-- A JSON value. -/
inductive Json where
  | null
  | bool (value : Bool)
  /-- A number, with its token. -/
  | number (token : Bytes)
  /-- A string, with what stands between its quotes. -/
  | string (token : Bytes)
  | array (items : List Json)
  /-- An object, with its fields in the order of writing. -/
  | object (fields : List (Bytes × Json))

namespace Json

/-- The bytes of a constant text. -/
def ascii (text : String) : Bytes :=
  text.toList.map fun c => UInt8.ofNat c.toNat

/-- A name or a string between quotes. -/
def quote (token : Bytes) : Bytes :=
  34 :: token ++ [34]

/-! ## Writing without blanks -/

mutual

/-- The text of a value. -/
def render : Json → Bytes
  | .null => ascii "null"
  | .bool true => ascii "true"
  | .bool false => ascii "false"
  | .number token => token
  | .string token => quote token
  | .array [] => [91, 93]
  | .array (item :: items) => 91 :: render item ++ renderItems items ++ [93]
  | .object [] => [123, 125]
  | .object (field :: fields) => 123 :: renderField field ++ renderFields fields ++ [125]
termination_by structural value => value

/-- The items of an array behind the first one. -/
def renderItems : List Json → Bytes
  | [] => []
  | item :: items => 44 :: render item ++ renderItems items
termination_by structural items => items

/-- The fields of an object behind the first one. -/
def renderFields : List (Bytes × Json) → Bytes
  | [] => []
  | field :: fields => 44 :: renderField field ++ renderFields fields
termination_by structural fields => fields

/-- One field of an object. -/
def renderField : Bytes × Json → Bytes
  | (name, value) => quote name ++ 58 :: render value
termination_by structural field => field

end

/-! ## Writing for people -/

/-- A new line, indented by two blanks for every level. -/
def newLine (level : Nat) : Bytes :=
  10 :: List.replicate (2 * level) 32

mutual

/-- The text of a value, whose first line is already indented. -/
def pretty (level : Nat) : Json → Bytes
  | .null => ascii "null"
  | .bool true => ascii "true"
  | .bool false => ascii "false"
  | .number token => token
  | .string token => quote token
  | .array [] => [91, 93]
  | .array (item :: items) =>
    91 :: newLine (level + 1) ++ pretty (level + 1) item ++ prettyItems (level + 1) items
      ++ newLine level ++ [93]
  | .object [] => [123, 125]
  | .object (field :: fields) =>
    123 :: newLine (level + 1) ++ prettyField (level + 1) field ++ prettyFields (level + 1) fields
      ++ newLine level ++ [125]
termination_by structural value => value

/-- The items of an array behind the first one, each on its own line. -/
def prettyItems (level : Nat) : List Json → Bytes
  | [] => []
  | item :: items => 44 :: newLine level ++ pretty level item ++ prettyItems level items
termination_by structural items => items

/-- The fields of an object behind the first one, each on its own line. -/
def prettyFields (level : Nat) : List (Bytes × Json) → Bytes
  | [] => []
  | field :: fields => 44 :: newLine level ++ prettyField level field ++ prettyFields level fields
termination_by structural fields => fields

/-- One field of an object. -/
def prettyField (level : Nat) : Bytes × Json → Bytes
  | (name, value) => quote name ++ 58 :: 32 :: pretty level value
termination_by structural field => field

end

/-! ## Nesting -/

mutual

/-- How many arrays and objects stand around the innermost value. -/
def depth : Json → Nat
  | .array items => depthItems items + 1
  | .object fields => depthFields fields + 1
  | _ => 0
termination_by structural value => value

def depthItems : List Json → Nat
  | [] => 0
  | item :: items => max (depth item) (depthItems items)
termination_by structural items => items

def depthFields : List (Bytes × Json) → Nat
  | [] => 0
  | field :: fields => max (depthField field) (depthFields fields)
termination_by structural fields => fields

def depthField : Bytes × Json → Nat
  | (_, value) => depth value
termination_by structural field => field

end

end Json

end Strongbox
