/-!
# Blanks

The characters with the Unicode property `White_Space`, and the text left when they are cut off at
both ends.
-/

namespace Strongbox.Text

/-- Whether a character is white space. -/
def isBlank (c : Char) : Bool :=
  let n := c.toNat
  (9 ≤ n && n ≤ 13) || n == 0x20 || n == 0x85 || n == 0xA0 || n == 0x1680
    || (0x2000 ≤ n && n ≤ 0x200A) || n == 0x2028 || n == 0x2029 || n == 0x202F
    || n == 0x205F || n == 0x3000

/-- The text without the characters of a class at its end. -/
def trimEndChars (cut : Char → Bool) (text : List Char) : List Char :=
  (text.reverse.dropWhile cut).reverse

/-- The text without the blanks at its two ends. -/
def trim (text : String) : String :=
  String.ofList (trimEndChars isBlank (text.toList.dropWhile isBlank))

/-- Whether a text holds nothing but blanks. -/
def allBlank (text : String) : Bool :=
  text.toList.all isBlank

end Strongbox.Text
