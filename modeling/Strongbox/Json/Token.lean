import Strongbox.Json

/-!
# What JSON tokens mean

* `Json.escape` and `Json.unescape` go between the UTF-8 form of a text and a string token.  The
  writer escapes quotes, backslashes and controls, and leaves everything else as it is.
* `Json.decimal` and `Json.natToken?` go between numbers and tokens.
* `Json.numberFits` says whether a number token stays below the range of floating-point numbers.
-/

namespace Strongbox.Json

/-! ## Strings -/

/-- The digit of a value below sixteen, as an ASCII code. -/
def hexCode (n : UInt8) : UInt8 :=
  if n < 10 then 48 + n else 87 + n

/-- A byte of a text as it stands in a string token. -/
def escapeByte (b : UInt8) : Bytes :=
  if b = 34 then [92, 34]
  else if b = 92 then [92, 92]
  else if b = 8 then [92, 98]
  else if b = 9 then [92, 116]
  else if b = 10 then [92, 110]
  else if b = 12 then [92, 102]
  else if b = 13 then [92, 114]
  else if b < 32 then [92, 117, 48, 48, hexCode (b >>> 4), hexCode (b &&& 15)]
  else [b]

/-- The token of a text. -/
def escape (text : Bytes) : Bytes :=
  text.flatMap escapeByte

/-- What a short escape stands for. -/
def shortEscape? (b : UInt8) : Option UInt8 :=
  if b = 34 ∨ b = 92 ∨ b = 47 then some b
  else if b = 98 then some 8
  else if b = 102 then some 12
  else if b = 110 then some 10
  else if b = 114 then some 13
  else if b = 116 then some 9
  else none

/-- The number that four hexadecimal digits write. -/
def unit? (a b c d : UInt8) : Option Nat := do
  let a ← Bytes.hexValue? a
  let b ← Bytes.hexValue? b
  let c ← Bytes.hexValue? c
  let d ← Bytes.hexValue? d
  some (((a.toNat * 16 + b.toNat) * 16 + c.toNat) * 16 + d.toNat)

/-- The UTF-8 form of a code point. -/
def utf8 (code : Nat) : Bytes :=
  Bytes.ofText (String.singleton (Char.ofNat code))

/-- Whether a number is the first or the second half of a surrogate pair. -/
def isHighSurrogate (n : Nat) : Bool := 0xD800 ≤ n && n < 0xDC00
def isLowSurrogate (n : Nat) : Bool := 0xDC00 ≤ n && n < 0xE000

/-- The bytes that a string token stands for.  An escaped surrogate counts only as half of a pair.
`done` are the bytes read so far, backwards. -/
def unescapeOnto (done : Bytes) : Bytes → Option Bytes
  | [] => some done.reverse
  | 92 :: 117 :: a :: b :: c :: d :: rest =>
    match unit? a b c d with
    | none => none
    | some high =>
      if isLowSurrogate high then none
      else if isHighSurrogate high then
        match rest with
        | 92 :: 117 :: a' :: b' :: c' :: d' :: rest =>
          match unit? a' b' c' d' with
          | none => none
          | some low =>
            if isLowSurrogate low then
              let code := 0x10000 + (high - 0xD800) * 0x400 + (low - 0xDC00)
              unescapeOnto ((utf8 code).reverse ++ done) rest
            else none
        | _ => none
      else unescapeOnto ((utf8 high).reverse ++ done) rest
  | 92 :: b :: rest =>
    match shortEscape? b with
    | none => none
    | some code => unescapeOnto (code :: done) rest
  | b :: rest => unescapeOnto (b :: done) rest

/-- The bytes that a string token stands for. -/
def unescape (token : Bytes) : Option Bytes :=
  unescapeOnto [] token

/-- The text that a string token stands for. -/
def tokenText? (token : Bytes) : Option String :=
  (unescape token).bind Bytes.toText?

/-- The string value of a text. -/
def ofText (text : String) : Json :=
  .string (escape (Bytes.ofText text))

/-- The text of a string value. -/
def text? : Json → Option String
  | .string token => tokenText? token
  | _ => none

/-! ## Numbers -/

/-- The decimal digits of a number, as ASCII codes. -/
def decimal (n : Nat) : Bytes :=
  (Nat.toDigits 10 n).map fun c => UInt8.ofNat c.toNat

/-- The value of a string of decimal digits. -/
def digitsValue (digits : Bytes) : Nat :=
  digits.foldl (fun n b => n * 10 + (b.toNat - 48)) 0

/-- Whether a byte is a decimal digit. -/
def isDigit (b : UInt8) : Bool := 48 ≤ b && b ≤ 57

/-- The number that a token writes with nothing but digits, without a zero in front. -/
def natToken? (token : Bytes) : Option Nat :=
  match token with
  | [] => none
  | 48 :: _ :: _ => none
  | _ => if token.all isDigit then some (digitsValue token) else none

/-- The number value of a number. -/
def ofNat (n : Nat) : Json :=
  .number (decimal n)

/-- A signed number. -/
def ofInt (n : Int) : Json :=
  if n < 0 then .number (45 :: decimal n.natAbs) else .number (decimal n.natAbs)

/-- The number of a number value, if it is a natural number below a bound. -/
def nat? (bound : Nat) : Json → Option Nat
  | .number token => (natToken? token).filter (· < bound)
  | _ => none

/-- The parts of a number token without its sign: the digits before and behind the point, and the
exponent. -/
def numberParts (token : Bytes) : Bytes × Bytes × Int :=
  let unsigned := if token.head? = some 45 then token.drop 1 else token
  let whole := unsigned.takeWhile isDigit
  let rest := unsigned.dropWhile isDigit
  let (fraction, rest) := match rest with
    | 46 :: rest => (rest.takeWhile isDigit, rest.dropWhile isDigit)
    | _ => ([], rest)
  let exponent : Int := match rest with
    | _ :: 45 :: digits => -(digitsValue digits : Int)
    | _ :: 43 :: digits => digitsValue digits
    | _ :: digits => digitsValue digits
    | [] => 0
  (whole, fraction, exponent)

/-- Whether a number is small enough for double precision.  The digits are compared as they stand
unless the number has about 309 places. -/
def numberFits (token : Bytes) : Bool :=
  let (whole, fraction, exponent) := numberParts token
  let digits := (whole ++ fraction).dropWhile (· == 48)
  let places : Int := digits.length - fraction.length + exponent
  if digits.isEmpty || places < 300 then true
  else if 310 < places then false
  else
    let scale := exponent - fraction.length
    if scale < 0 then digitsValue digits < Nat.pow 10 scale.natAbs <<< 1024
    else digitsValue digits * Nat.pow 10 scale.natAbs < 1 <<< 1024

end Strongbox.Json
