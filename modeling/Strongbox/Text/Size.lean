/-!
# Sizes for people

A size is shown in the largest binary unit that it reaches, with one decimal place.
-/

namespace Strongbox.Text

/-- The quotient rounded to the nearest number; a half goes to the even neighbour. -/
def roundDiv (num den : Nat) : Nat :=
  let quotient := num / den
  let rest := num % den
  if den < 2 * rest then quotient + 1
  else if 2 * rest = den then quotient + quotient % 2
  else quotient

/-- The nearest number with 53 significant bits, as which a size is divided. -/
def nearestDouble (n : Nat) : Nat :=
  let excess := n.log2 + 1 - 53
  roundDiv n (1 <<< excess) <<< excess

/-- The names of the units above the byte. -/
def units : List String :=
  ["KiB", "MiB", "GiB", "TiB"]

/-- The unit for a size and the number of bytes in it.  `unit` is `bytes` bytes, and the units
behind it are each 1024 times the one before. -/
def unitFor (size bytes : Nat) (unit : String) : List String → String × Nat
  | [] => (unit, bytes)
  | larger :: rest =>
    if bytes * 1024 ≤ size then unitFor size (bytes * 1024) larger rest else (unit, bytes)

/-- A size with its unit, such as `1.5 KiB`. -/
def sizeText (size : Nat) : String :=
  if size < 1024 then s!"{size} B"
  else
    let value := nearestDouble size
    let (unit, bytes) := unitFor value 1 "B" units
    let tenths := roundDiv (value * 10) bytes
    s!"{tenths / 10}.{tenths % 10} {unit}"

end Strongbox.Text
