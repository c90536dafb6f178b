import Strongbox.Toml

/-!
# TOML scalars

The values that are written without quotes or brackets: integers, floats, booleans, dates and times.

* `Toml.scalar?` is the value of such a token.
-/

namespace Strongbox.Toml

/-! ## Integers -/

/-- The value of a digit in any base up to sixteen. -/
def digit? (c : Char) : Option Nat :=
  if '0' ≤ c ∧ c ≤ '9' then some (c.toNat - 48)
  else if 'a' ≤ c ∧ c ≤ 'f' then some (c.toNat - 87)
  else if 'A' ≤ c ∧ c ≤ 'F' then some (c.toNat - 55)
  else none

/-- The digits of a base, without the underscores between two of them.  `after` tells whether a
digit went before. -/
def digits? (base : Nat) (after : Bool) : List Char → Option (List Nat)
  | [] => if after then some [] else none
  | '_' :: rest => if after then digits? base false rest else none
  | c :: rest =>
    match digit? c with
    | some d => if d < base then (digits? base true rest).map (d :: ·) else none
    | none => none

/-- The number that digits write. -/
def ofDigits (base : Nat) (digits : List Nat) : Nat :=
  digits.foldl (fun n d => n * base + d) 0

/-- The digits of a decimal number, which has no zero in front. -/
def decimalDigits? (token : List Char) : Option (List Nat) :=
  match token with
  | '0' :: _ :: _ => none
  | _ => digits? 10 false token

/-- The sign of a token, and what follows it. -/
def signed : List Char → Bool × List Char
  | '-' :: rest => (true, rest)
  | '+' :: rest => (false, rest)
  | rest => (false, rest)

/-- The integer that a token writes. -/
def integer? (token : List Char) : Option Int :=
  match token with
  | '0' :: 'x' :: digits => (digits? 16 false digits).map fun ds => (ofDigits 16 ds : Int)
  | '0' :: 'o' :: digits => (digits? 8 false digits).map fun ds => (ofDigits 8 ds : Int)
  | '0' :: 'b' :: digits => (digits? 2 false digits).map fun ds => (ofDigits 2 ds : Int)
  | _ =>
    let (negative, digits) := signed token
    (decimalDigits? digits).map fun ds =>
      if negative then -(ofDigits 10 ds : Int) else (ofDigits 10 ds : Int)

/-! ## Floats -/

/-- Whether a token is the exponent of a float. -/
def isExponent (token : List Char) : Bool :=
  (digits? 10 false (signed token).2).isSome

/-- Whether a character belongs to the digits of a float. -/
def isFloatDigit (c : Char) : Bool :=
  ('0' ≤ c && c ≤ '9') || c == '_'

/-- Whether a token writes a float. -/
def isFloat (token : List Char) : Bool :=
  let (_, unsigned) := signed token
  if unsigned = ['i', 'n', 'f'] || unsigned = ['n', 'a', 'n'] then true
  else if (decimalDigits? (unsigned.takeWhile isFloatDigit)).isNone then false
  else
    match unsigned.dropWhile isFloatDigit with
    | '.' :: rest =>
      (digits? 10 false (rest.takeWhile isFloatDigit)).isSome &&
        match rest.dropWhile isFloatDigit with
        | [] => true
        | 'e' :: exponent | 'E' :: exponent => isExponent exponent
        | _ => false
    | 'e' :: exponent | 'E' :: exponent => isExponent exponent
    | _ => false

/-! ## Dates and times -/

/-- The number that plain decimal digits write. -/
def plainNumber? (token : List Char) : Option Nat :=
  if token.all fun c => '0' ≤ c && c ≤ '9' then (digits? 10 false token).map (ofDigits 10)
  else none

/-- Whether a token is a number within bounds. -/
def within (low high : Nat) (token : List Char) : Bool :=
  match plainNumber? token with
  | some n => low ≤ n && n ≤ high
  | none => false

/-- The number of days in a month. -/
def daysIn (year month : Nat) : Nat :=
  if month = 2 then
    if year % 4 = 0 ∧ (year % 100 ≠ 0 ∨ year % 400 = 0) then 29 else 28
  else if month = 4 ∨ month = 6 ∨ month = 9 ∨ month = 11 then 30
  else 31

/-- Whether a token is a date. -/
def isDate : List Char → Bool
  | [y₁, y₂, y₃, y₄, '-', m₁, m₂, '-', d₁, d₂] =>
    match plainNumber? [y₁, y₂, y₃, y₄], plainNumber? [m₁, m₂] with
    | some year, some month =>
      1 ≤ month && month ≤ 12 && within 1 (daysIn year month) [d₁, d₂]
    | _, _ => false
  | _ => false

/-- Whether a token is an offset from universal time. -/
def isOffset : List Char → Bool
  | ['Z'] | ['z'] => true
  | [sign, h₁, h₂, ':', m₁, m₂] =>
    (sign == '+' || sign == '-') && within 0 24 [h₁, h₂] && within 0 59 [m₁, m₂]
  | _ => false

/-- Whether a token is the end of a time of day: an offset, where one may stand, or nothing. -/
def endsTime (offset : Bool) (token : List Char) : Bool :=
  token.isEmpty || (offset && isOffset token)

/-- Whether a token is a time of day, with an offset where one may stand.  The seconds may be left
out. -/
def isTime (offset : Bool) : List Char → Bool
  | h₁ :: h₂ :: ':' :: m₁ :: m₂ :: rest =>
    within 0 23 [h₁, h₂] && within 0 59 [m₁, m₂] &&
      match rest with
      | ':' :: s₁ :: s₂ :: rest =>
        within 0 60 [s₁, s₂] &&
          match rest with
          | '.' :: digits =>
            (digits.head?.any Char.isDigit) && endsTime offset (digits.dropWhile Char.isDigit)
          | rest => endsTime offset rest
      | rest => endsTime offset rest
  | _ => false

/-- Whether a token is a date, a time of day or both. -/
def isDateTime (token : List Char) : Bool :=
  isDate token || isTime false token ||
    (isDate (token.take 10) &&
      match token.drop 10 with
      | c :: time => (c == 'T' || c == 't' || c == ' ') && isTime true time
      | [] => false)

/-! ## All scalars -/

/-- The value of a token without quotes or brackets. -/
def scalar? (token : List Char) : Option Toml :=
  if token = "true".toList then some (.boolean true)
  else if token = "false".toList then some (.boolean false)
  else
    match integer? token with
    | some n => some (.integer n)
    | none =>
      if isFloat token then some (.float (String.ofList token))
      else if isDateTime token then some (.dateTime (String.ofList token))
      else none

end Strongbox.Toml
