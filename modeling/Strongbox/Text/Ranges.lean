/-!
# Sets of characters

A `CodeRanges` is a set of code points given as ranges.  Tables of Unicode properties are written
as words such as `5BF` or `5C1-5C2`, in hexadecimal, and read by `CodeRanges.ofLines`.
-/

namespace Strongbox.Text

/-- The value of a hexadecimal digit of a table; any other character counts as zero. -/
def tableDigit (c : Char) : Nat :=
  if c.isDigit then c.toNat - 48 else if 'A' ≤ c ∧ c ≤ 'F' then c.toNat - 55 else 0

/-- The number that a word of a table writes. -/
def tableNumber (word : List Char) : Nat :=
  word.foldl (fun n c => n * 16 + tableDigit c) 0

/-- The pieces of a line between the characters of a class, none of them empty. -/
def pieces (cut : Char → Bool) (line : List Char) : List (List Char) :=
  let (current, done) := line.foldr
    (fun c (current, done) =>
      if cut c then ([], if current.isEmpty then done else current :: done)
      else (c :: current, done))
    ([], [])
  if current.isEmpty then done else current :: done

/-- A set of code points, as closed ranges. -/
structure CodeRanges where
  ranges : List (Nat × Nat)

namespace CodeRanges

/-- The range that a word of a table writes: one code point, or two joined by a hyphen. -/
def ofWord (word : List Char) : Nat × Nat :=
  match pieces (· == '-') word with
  | [low, high] => (tableNumber low, tableNumber high)
  | _ => (tableNumber word, tableNumber word)

/-- The set written by the lines of a table. -/
def ofLines (lines : List String) : CodeRanges :=
  ⟨lines.flatMap fun line => (pieces (· == ' ') line.toList).map ofWord⟩

/-- Whether a character lies in the set. -/
def contains (set : CodeRanges) (c : Char) : Bool :=
  set.ranges.any fun (low, high) => low ≤ c.toNat && c.toNat ≤ high

end CodeRanges

end Strongbox.Text
