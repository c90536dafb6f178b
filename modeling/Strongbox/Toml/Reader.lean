import Strongbox.Toml.Scalar

/-!
# Reading TOML

* `Toml.read` reads a document.

Every reader takes the characters that are left and gives back those behind what it has read.
Arrays and inline tables nest, so their readers carry a fuel, for which the length of the document
is enough.
-/

namespace Strongbox.Toml

/-! ## Blanks and comments -/

/-- Whether a character may stand in a comment or a string. -/
def isTextChar (c : Char) : Bool :=
  c == '\t' || (0x20 ≤ c.toNat && c.toNat ≠ 0x7F)

/-- What follows the blanks of a line. -/
def skipBlanks (cs : List Char) : List Char :=
  cs.dropWhile fun c => c == ' ' || c == '\t'

/-- What follows the end of a line. -/
def newLine? : List Char → Option (List Char)
  | '\n' :: rest => some rest
  | '\r' :: '\n' :: rest => some rest
  | _ => none

/-- What follows blanks, ends of lines and comments. -/
def skipSpace (inComment : Bool) : List Char → Option (List Char)
  | [] => some []
  | '\n' :: rest => skipSpace false rest
  | '\r' :: '\n' :: rest => skipSpace false rest
  | c :: rest =>
    if inComment then if isTextChar c then skipSpace true rest else none
    else if c = ' ' ∨ c = '\t' then skipSpace false rest
    else if c = '#' then skipSpace true rest
    else some (c :: rest)

/-- What follows a line of which nothing but a comment may be left. -/
def finishLine (cs : List Char) : Option (List Char) :=
  let rest := skipBlanks cs
  let rest := if rest.head? = some '#' then rest.dropWhile isTextChar else rest
  if rest.isEmpty then some [] else newLine? rest

/-! ## Strings -/

/-- The character of a code point written in hexadecimal. -/
def codePoint? (digits : List Char) : Option Char := do
  let code := ofDigits 16 (← digits.mapM digit?)
  if code < 0xD800 ∨ (0xDFFF < code ∧ code < 0x110000) then some (Char.ofNat code) else none

/-- The character that an escape of one letter stands for. -/
def shortEscape? (c : Char) : Option Char :=
  if c = 'b' then some '\x08'
  else if c = 't' then some '\t'
  else if c = 'n' then some '\n'
  else if c = 'f' then some '\x0c'
  else if c = 'r' then some '\r'
  else if c = 'e' then some '\x1b'
  else if c = '\x22' ∨ c = '\\' then some c
  else none

/-- The text up to the closing double quote.  `done` is what was read so far, backwards. -/
def basicText (done : List Char) : List Char → Option (String × List Char)
  | [] => none
  | '\x22' :: rest => some (String.ofList done.reverse, rest)
  | '\\' :: 'x' :: a :: b :: rest =>
    match codePoint? [a, b] with
    | some c => basicText (c :: done) rest
    | none => none
  | '\\' :: 'u' :: a :: b :: c :: d :: rest =>
    match codePoint? [a, b, c, d] with
    | some c => basicText (c :: done) rest
    | none => none
  | '\\' :: 'U' :: a :: b :: c :: d :: e :: f :: g :: h :: rest =>
    match codePoint? [a, b, c, d, e, f, g, h] with
    | some c => basicText (c :: done) rest
    | none => none
  | '\\' :: c :: rest =>
    match shortEscape? c with
    | some c => basicText (c :: done) rest
    | none => none
  | c :: rest => if isTextChar c then basicText (c :: done) rest else none

/-- The text up to three double quotes.  Two more of them may belong to the text.  A backslash at
the end of a line joins it to the next text, and everything in between is skipped. -/
def longText (skipping : Bool) (done : List Char) : List Char → Option (String × List Char)
  | [] => none
  | '\x22' :: '\x22' :: '\x22' :: '\x22' :: '\x22' :: rest =>
    some (String.ofList ('\x22' :: '\x22' :: done).reverse, rest)
  | '\x22' :: '\x22' :: '\x22' :: '\x22' :: rest =>
    some (String.ofList ('\x22' :: done).reverse, rest)
  | '\x22' :: '\x22' :: '\x22' :: rest => some (String.ofList done.reverse, rest)
  | '\n' :: rest => longText skipping (if skipping then done else '\n' :: done) rest
  | '\r' :: '\n' :: rest => longText skipping (if skipping then done else '\n' :: done) rest
  | '\\' :: 'x' :: a :: b :: rest =>
    match codePoint? [a, b] with
    | some c => longText false (c :: done) rest
    | none => none
  | '\\' :: 'u' :: a :: b :: c :: d :: rest =>
    match codePoint? [a, b, c, d] with
    | some c => longText false (c :: done) rest
    | none => none
  | '\\' :: 'U' :: a :: b :: c :: d :: e :: f :: g :: h :: rest =>
    match codePoint? [a, b, c, d, e, f, g, h] with
    | some c => longText false (c :: done) rest
    | none => none
  | '\\' :: c :: rest =>
    match shortEscape? c with
    | some c => longText false (c :: done) rest
    | none =>
      if (newLine? (skipBlanks (c :: rest))).isNone then none else longText true done rest
  | c :: rest =>
    if skipping && (c == ' ' || c == '\t') then longText true done rest
    else if isTextChar c then longText false (c :: done) rest
    else none

/-- The text up to the closing single quote, taken as it is. -/
def literalText (done : List Char) : List Char → Option (String × List Char)
  | [] => none
  | '\x27' :: rest => some (String.ofList done.reverse, rest)
  | c :: rest => if isTextChar c then literalText (c :: done) rest else none

/-- The text up to three single quotes, taken as it is.  Two more of them may belong to the text. -/
def longLiteral (done : List Char) : List Char → Option (String × List Char)
  | [] => none
  | '\x27' :: '\x27' :: '\x27' :: '\x27' :: '\x27' :: rest =>
    some (String.ofList ('\x27' :: '\x27' :: done).reverse, rest)
  | '\x27' :: '\x27' :: '\x27' :: '\x27' :: rest =>
    some (String.ofList ('\x27' :: done).reverse, rest)
  | '\x27' :: '\x27' :: '\x27' :: rest => some (String.ofList done.reverse, rest)
  | '\n' :: rest => longLiteral ('\n' :: done) rest
  | '\r' :: '\n' :: rest => longLiteral ('\n' :: done) rest
  | c :: rest => if isTextChar c then longLiteral (c :: done) rest else none

/-- What follows a line end directly behind three opening quotes. -/
def dropFirstLineEnd (cs : List Char) : List Char :=
  (newLine? cs).getD cs

/-! ## Keys -/

/-- Whether a character may stand in a key without quotes. -/
def isBareKeyChar (c : Char) : Bool :=
  c.isAlphanum || c == '-' || c == '_'

/-- One part of a key. -/
def keyPart? : List Char → Option (String × List Char)
  | '\x22' :: rest => basicText [] rest
  | '\x27' :: rest => literalText [] rest
  | cs =>
    match cs.takeWhile isBareKeyChar with
    | [] => none
    | name => some (String.ofList name, cs.dropWhile isBareKeyChar)

/-- A key whose parts are joined by dots. -/
def key? : Nat → List Char → Option (List String × List Char)
  | 0, _ => none
  | fuel + 1, cs => do
    let (part, rest) ← keyPart? (skipBlanks cs)
    match skipBlanks rest with
    | '.' :: rest =>
      let (parts, rest) ← key? fuel rest
      some (part :: parts, rest)
    | rest => some ([part], rest)

/-! ## Values -/

/-- Whether a character belongs to a token without quotes. -/
def isTokenChar (c : Char) : Bool :=
  isBareKeyChar c || c == '+' || c == '.' || c == ':'

/-- A token without quotes.  A blank belongs to it between a date and a time of day. -/
def token (cs : List Char) : List Char × List Char :=
  let first := cs.takeWhile isTokenChar
  let rest := cs.dropWhile isTokenChar
  match rest with
  | ' ' :: c :: _ =>
    if isDate first && c.isDigit then
      let time := rest.drop 1
      (first ++ ' ' :: time.takeWhile isTokenChar, time.dropWhile isTokenChar)
    else (first, rest)
  | _ => (first, rest)

mutual

/-- A value. -/
def value? (fuel : Nat) (cs : List Char) : Option (Toml × List Char) :=
  match fuel with
  | 0 => none
  | fuel + 1 =>
    match cs with
    | '\x22' :: '\x22' :: '\x22' :: rest =>
      (longText false [] (dropFirstLineEnd rest)).map fun (read, rest) => (.text read, rest)
    | '\x22' :: rest => (basicText [] rest).map fun (read, rest) => (.text read, rest)
    | '\x27' :: '\x27' :: '\x27' :: rest =>
      (longLiteral [] (dropFirstLineEnd rest)).map fun (read, rest) => (.text read, rest)
    | '\x27' :: rest => (literalText [] rest).map fun (read, rest) => (.text read, rest)
    | '[' :: rest => (items? fuel rest).map fun (items, rest) => (.array items, rest)
    | '\x7b' :: rest => do
      let (statements, rest) ← fields? fuel rest
      some (.table (← Entries.ofStatements statements), rest)
    | cs =>
      let (first, rest) := token cs
      (scalar? first).map fun value => (value, rest)

/-- The items of an array up to its end.  A comma may follow the last one. -/
def items? (fuel : Nat) (cs : List Char) : Option (List Toml × List Char) :=
  match fuel with
  | 0 => none
  | fuel + 1 => do
    match ← skipSpace false cs with
    | ']' :: rest => some ([], rest)
    | cs =>
      let (item, rest) ← value? fuel cs
      match ← skipSpace false rest with
      | ',' :: rest =>
        let (items, rest) ← items? fuel rest
        some (item :: items, rest)
      | ']' :: rest => some ([item], rest)
      | _ => none

/-- The fields of an inline table up to its end.  A comma may follow the last one. -/
def fields? (fuel : Nat) (cs : List Char) : Option (List Statement × List Char) :=
  match fuel with
  | 0 => none
  | fuel + 1 => do
    match ← skipSpace false cs with
    | '\x7d' :: rest => some ([], rest)
    | cs =>
      let (key, rest) ← key? fuel cs
      let '=' :: rest := rest | none
      let (value, rest) ← value? fuel (skipBlanks rest)
      match ← skipSpace false rest with
      | ',' :: rest =>
        let (fields, rest) ← fields? fuel rest
        some (.assign key value :: fields, rest)
      | '\x7d' :: rest => some ([.assign key value], rest)
      | _ => none

end

/-! ## Documents -/

/-- The statement at the start of a line that is not blank. -/
def statement? (fuel : Nat) : List Char → Option (Statement × List Char)
  | '[' :: '[' :: rest => do
    let (key, rest) ← key? fuel rest
    let ']' :: ']' :: rest := rest | none
    some (.arrayHeader key, rest)
  | '[' :: rest => do
    let (key, rest) ← key? fuel rest
    let ']' :: rest := rest | none
    some (.header key, rest)
  | cs => do
    let (key, rest) ← key? fuel cs
    let '=' :: rest := rest | none
    let (value, rest) ← value? fuel (skipBlanks rest)
    some (.assign key value, rest)

/-- The statements of a document. -/
def statements? (fuel : Nat) (cs : List Char) : Option (List Statement) :=
  match fuel with
  | 0 => none
  | fuel + 1 => do
    match ← skipSpace false cs with
    | [] => some []
    | cs =>
      let (statement, rest) ← statement? (cs.length + 1) cs
      let rest ← finishLine rest
      (← statements? fuel rest |>.map (statement :: ·))

/-- The table that a document writes.  A byte order mark in front is skipped. -/
def read (document : String) : Option (List (String × Toml)) := do
  let cs := match document.toList with
    | '\uFEFF' :: rest => rest
    | cs => cs
  Entries.ofStatements (← statements? (cs.length + 1) cs)

end Strongbox.Toml
