import Std.Data.TreeMap
import Strongbox.Text.Normal.Table

/-!
# Composed normal form

Texts that a reader cannot tell apart may be spelled with different characters.  `Text.compose`
brings a text into the composed normal form of Unicode (NFC): every character is decomposed,
combining marks are put into the order of their classes, and what can be composed is composed.
-/

namespace Strongbox.Text

/-! ## The data -/

/-- The words of a table's lines. -/
def tableWords (lines : List String) : List (List Char) :=
  lines.flatMap fun line => pieces (· == ' ') line.toList

/-- One-step decompositions. -/
def decompositions : Std.TreeMap Nat (List Nat) :=
  (tableWords decompositionLines).foldl
    (fun map word => match pieces (· == '=') word with
      | [key, parts] => map.insert (tableNumber key) ((pieces (· == '+') parts).map tableNumber)
      | _ => map)
    ∅

/-- Combining classes other than zero. -/
def classes : Std.TreeMap Nat Nat :=
  (tableWords classLines).foldl
    (fun map word => match pieces (· == '=') word with
      | [range, value] =>
        let (low, high) := CodeRanges.ofWord range
        (List.range (high + 1 - low)).foldl
          (fun map i => map.insert (low + i) (tableNumber value)) map
      | _ => map)
    ∅

/-- The pairs that compose, with their composition. -/
def compositions :
    Std.TreeMap (Nat × Nat) Nat (compareLex (compareOn Prod.fst) (compareOn Prod.snd)) :=
  decompositions.foldl
    (fun map code parts => match parts with
      | [first, second] =>
        if uncomposed.contains (Char.ofNat code) then map else map.insert (first, second) code
      | _ => map)
    ∅

/-- The combining class of a character; zero for one that starts a new sequence. -/
def combiningClass (code : Nat) : Nat :=
  (classes.get? code).getD 0

/-! ## Korean syllables -/

/-- The syllables are numbered: 19 leading consonants, 21 vowels, and 27 trailing consonants or
none. -/
def syllableBase : Nat := 0xAC00
def leadBase : Nat := 0x1100
def vowelBase : Nat := 0x1161
def tailBase : Nat := 0x11A7
def leadCount : Nat := 19
def vowelCount : Nat := 21
def tailCount : Nat := 28

/-- The letters of a syllable. -/
def syllableLetters? (code : Nat) : Option (List Nat) :=
  if syllableBase ≤ code ∧ code < syllableBase + leadCount * vowelCount * tailCount then
    let index := code - syllableBase
    let lead := leadBase + index / (vowelCount * tailCount)
    let vowel := vowelBase + index % (vowelCount * tailCount) / tailCount
    let tail := index % tailCount
    some (if tail = 0 then [lead, vowel] else [lead, vowel, tailBase + tail])
  else none

/-- The syllable of a leading consonant and a vowel, or of an open syllable and a trailing
consonant. -/
def syllable? (first second : Nat) : Option Nat :=
  if leadBase ≤ first ∧ first < leadBase + leadCount
      ∧ vowelBase ≤ second ∧ second < vowelBase + vowelCount then
    some (syllableBase
      + ((first - leadBase) * vowelCount + (second - vowelBase)) * tailCount)
  else if syllableBase ≤ first ∧ first < syllableBase + leadCount * vowelCount * tailCount
      ∧ (first - syllableBase) % tailCount = 0
      ∧ tailBase < second ∧ second < tailBase + tailCount then
    some (first + (second - tailBase))
  else none

/-! ## The steps -/

/-- The full decomposition of a character.  No decomposition in the table takes more than four
steps. -/
def decomposeChar : Nat → Nat → List Nat
  | 0, code => [code]
  | n + 1, code =>
    match syllableLetters? code with
    | some letters => letters
    | none =>
      match decompositions.get? code with
      | some parts => parts.flatMap (decomposeChar n)
      | none => [code]

/-- Put a mark behind every earlier mark of the same or a lower class, seen from the end.  The
marks are listed backwards and stop at a character that starts a sequence. -/
def insertMark (code class' : Nat) : List Nat → List Nat
  | [] => [code]
  | last :: before =>
    if class' < combiningClass last then last :: insertMark code class' before
    else code :: last :: before

/-- The text with every run of marks ordered by class. -/
def orderMarks (codes : List Nat) : List Nat :=
  (codes.foldl
    (fun done code =>
      let class' := combiningClass code
      if class' = 0 then code :: done else insertMark code class' done)
    []).reverse

/-- The composition of a character with the one behind it. -/
def composePair (first second : Nat) : Option Nat :=
  match syllable? first second with
  | some code => some code
  | none => compositions.get? (first, second)

/-- Compose what follows a starting character.  `marks` are the marks since then, backwards, that
stay; `lastClass` is the class of the last of them, or none if there is none.  A character can
reach the starter unless one of its own or a higher class, or another starter, stands between. -/
def composeFrom (starter : Nat) (marks : List Nat) (lastClass : Option Nat) : List Nat → List Nat
  | [] => starter :: marks.reverse
  | code :: rest =>
    let class' := combiningClass code
    let reaches := match lastClass with
      | none => true
      | some last => last < class'
    match if reaches then composePair starter code else none with
    | some composed => composeFrom composed marks lastClass rest
    | none =>
      if class' = 0 then starter :: marks.reverse ++ composeFrom code [] none rest
      else composeFrom starter (code :: marks) (some class') rest

/-- Compose a decomposed and ordered text.  Marks before the first starting character stay. -/
def composeAll : List Nat → List Nat
  | [] => []
  | code :: rest =>
    if combiningClass code = 0 then composeFrom code [] none rest else code :: composeAll rest

/-- The composed normal form of a text. -/
def compose (text : String) : String :=
  let codes := text.toList.map Char.toNat
  String.ofList ((composeAll (orderMarks (codes.flatMap (decomposeChar 4)))).map Char.ofNat)

end Strongbox.Text
