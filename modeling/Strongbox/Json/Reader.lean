import Strongbox.Json.Token

/-!
# Reading JSON

`Json.parse` reads a whole text as one value.  It follows the grammar and nothing more: every token
is kept as it is written, and a text whose tokens mean nothing still has a value.

Each function gives what it read and what is left.  `fuel` bounds the nesting of calls, each of
which takes at least one byte; `Json.parse` gives as much as the text is long.
-/

namespace Strongbox.Json

/-- Whether a byte is white space between tokens. -/
def isSpace (b : UInt8) : Bool :=
  b == 32 || b == 9 || b == 10 || b == 13

/-- What is left behind white space. -/
def skipSpace (text : Bytes) : Bytes :=
  text.dropWhile isSpace

/-- Whether four bytes are hexadecimal digits. -/
def areHex (a b c d : UInt8) : Bool :=
  [a, b, c, d].all fun x => (Bytes.hexValue? x).isSome

/-- Read a string up to its closing quote.  `token` is what was read so far, backwards. -/
def stringOnto (token : Bytes) : Bytes → Option (Bytes × Bytes)
  | 34 :: rest => some (token.reverse, rest)
  | 92 :: 117 :: a :: b :: c :: d :: rest =>
    if areHex a b c d then stringOnto (d :: c :: b :: a :: 117 :: 92 :: token) rest else none
  | 92 :: b :: rest =>
    if (shortEscape? b).isSome then stringOnto (b :: 92 :: token) rest else none
  | b :: rest => if b < 32 then none else stringOnto (b :: token) rest
  | [] => none

/-- Read the rest of a string, behind its first quote. -/
def stringRest (text : Bytes) : Option (Bytes × Bytes) :=
  stringOnto [] text

/-- Read one or more digits. -/
def digits (text : Bytes) : Option (Bytes × Bytes) :=
  let found := text.takeWhile isDigit
  if found.isEmpty then none else some (found, text.dropWhile isDigit)

/-- Read the part of a number before the point: a zero, or digits that do not start with one. -/
def wholePart : Bytes → Option (Bytes × Bytes)
  | 48 :: rest => some ([48], rest)
  | text => digits text

/-- Read the part of a number from the point on, if there is one. -/
def fractionPart : Bytes → Option (Bytes × Bytes)
  | 46 :: rest => (digits rest).map fun (found, rest) => (46 :: found, rest)
  | text => some ([], text)

/-- Read the exponent of a number, if there is one. -/
def exponentPart : Bytes → Option (Bytes × Bytes)
  | e :: sign :: rest =>
    if e = 101 ∨ e = 69 then
      if sign = 43 ∨ sign = 45 then
        (digits rest).map fun (found, rest) => (e :: sign :: found, rest)
      else (digits (sign :: rest)).map fun (found, rest) => (e :: found, rest)
    else some ([], e :: sign :: rest)
  | [e] => if e = 101 ∨ e = 69 then none else some ([], [e])
  | [] => some ([], [])

/-- Read a number. -/
def numberToken (text : Bytes) : Option (Bytes × Bytes) := do
  let (sign, text) := match text with
    | 45 :: rest => ([45], rest)
    | _ => (([] : Bytes), text)
  let (whole, text) ← wholePart text
  let (fraction, text) ← fractionPart text
  let (exponent, text) ← exponentPart text
  some (sign ++ whole ++ fraction ++ exponent, text)

/-- What is left behind an expected word. -/
def word? (expected text : Bytes) : Option Bytes :=
  if expected.isPrefixOf text then some (text.drop expected.length) else none

mutual

/-- Read a value. -/
def value : Nat → Bytes → Option (Json × Bytes)
  | 0, _ => none
  | fuel + 1, text =>
    match skipSpace text with
    | 123 :: rest =>
      match skipSpace rest with
      | 125 :: rest => some (.object [], rest)
      | rest => do
        let (found, rest) ← fields fuel rest
        some (.object found, rest)
    | 91 :: rest =>
      match skipSpace rest with
      | 93 :: rest => some (.array [], rest)
      | rest => do
        let (found, rest) ← items fuel rest
        some (.array found, rest)
    | 34 :: rest => (stringRest rest).map fun (token, rest) => (.string token, rest)
    | text =>
      match word? (ascii "null") text, word? (ascii "true") text, word? (ascii "false") text with
      | some rest, _, _ => some (.null, rest)
      | _, some rest, _ => some (.bool true, rest)
      | _, _, some rest => some (.bool false, rest)
      | none, none, none =>
        (numberToken text).map fun (token, rest) => (.number token, rest)

/-- Read the items of an array up to its end, at least one. -/
def items : Nat → Bytes → Option (List Json × Bytes)
  | 0, _ => none
  | fuel + 1, text => do
    let (first, rest) ← value fuel text
    match skipSpace rest with
    | 93 :: rest => some ([first], rest)
    | 44 :: rest => do
      let (others, rest) ← items fuel rest
      some (first :: others, rest)
    | _ => none

/-- Read the fields of an object up to its end, at least one. -/
def fields : Nat → Bytes → Option (List (Bytes × Json) × Bytes)
  | 0, _ => none
  | fuel + 1, text =>
    match skipSpace text with
    | 34 :: rest => do
      let (name, rest) ← stringRest rest
      match skipSpace rest with
      | 58 :: rest => do
        let (first, rest) ← value fuel rest
        match skipSpace rest with
        | 125 :: rest => some ([(name, first)], rest)
        | 44 :: rest => do
          let (others, rest) ← fields fuel rest
          some ((name, first) :: others, rest)
        | _ => none
      | _ => none
    | _ => none

end

/-- The value that a whole text writes. -/
def parse (text : Bytes) : Option Json := do
  let (found, rest) ← value (text.length + 1) text
  if (skipSpace rest).isEmpty then some found else none

end Strongbox.Json
