import ObservationQuery.Toml.Basic
import ObservationQuery.Toml.Time

/-!
# Reading TOML texts

The grammar is that of TOML 1.1: tables between braces may have line breaks, comments and a comma
after the last entry, strings know the escapes `\e` and `\xHH`, and a time may lack its seconds.
Arrays and tables between braces nest at most 80 deep, and a key has at most 80 parts.

* `Toml.read?` — the entries of a document.
* `Toml.readValue`, `Toml.readItems`, `Toml.readInline` — a value, the rest of an array and the rest
  of a table between braces, each with the text that follows. Their first argument bounds the
  recursion: every value, item and entry uses up a character and at most two steps.
* `Toml.readLines` — the lines of a document.
-/

namespace ObservationQuery.Toml

/-! ## Blanks, comments and line breaks -/

/-- The text after its leading spaces and tabs. -/
def skipBlanks (cs : List Char) : List Char := cs.dropWhile fun c => c == ' ' || c == '\t'

/-- Whether a character may stand in a comment or a literal string. -/
def isPlain (c : Char) : Bool := c == '\t' || (0x20 ≤ c.toNat && c != '\x7f')

/-- The text after a line break. -/
def lineBreak? : List Char → Option (List Char)
  | '\n' :: rest | '\r' :: '\n' :: rest => some rest
  | _ => none

/-- The text after a comment, where there is one. -/
def skipComment (cs : List Char) : List Char :=
  match cs with
  | '#' :: rest => rest.dropWhile isPlain
  | cs => cs

/-- The text of the next line, after blanks and a comment; none if anything else is left. -/
def nextLine? (cs : List Char) : Option (List Char) :=
  match skipComment (skipBlanks cs) with
  | [] => some []
  | cs => lineBreak? cs

/-- The text after blanks, comments and line breaks. -/
def skipLines : Nat → List Char → List Char
  | 0, cs => cs
  | fuel + 1, cs =>
    let cs := skipComment (skipBlanks cs)
    match lineBreak? cs with
    | some rest => skipLines fuel rest
    | none => cs

/-- The text after blanks, comments and line breaks. -/
def skipGap (cs : List Char) : List Char := skipLines (cs.length + 1) cs

/-! ## Strings -/

/-- The character of a code point written with `count` hexadecimal digits. -/
def codePoint? (count : Nat) (cs : List Char) : Option (Char × List Char) :=
  let digits := cs.take count
  if digits.length = count ∧ digits.all isHexDigit ∧ (ofDigits 16 digits).isValidChar then
    some (Char.ofNat (ofDigits 16 digits), cs.drop count)
  else none

/-- The character of an escape whose backslash has been read. -/
def readEscape : List Char → Option (Char × List Char)
  | 'b' :: rest => some ('\x08', rest)
  | 't' :: rest => some ('\t', rest)
  | 'n' :: rest => some ('\n', rest)
  | 'f' :: rest => some ('\x0c', rest)
  | 'r' :: rest => some ('\r', rest)
  | 'e' :: rest => some ('\x1b', rest)
  | '"' :: rest => some ('"', rest)
  | '\\' :: rest => some ('\\', rest)
  | 'x' :: rest => codePoint? 2 rest
  | 'u' :: rest => codePoint? 4 rest
  | 'U' :: rest => codePoint? 8 rest
  | _ => none

/-- The characters of a string on one line whose opening quote has been read. -/
def readBasic : Nat → List Char → Option (List Char × List Char)
  | 0, _ | _, [] => none
  | _ + 1, '"' :: rest => some ([], rest)
  | fuel + 1, '\\' :: rest => do
    let (c, rest) ← readEscape rest
    let (cs, rest) ← readBasic fuel rest
    return (c :: cs, rest)
  | fuel + 1, c :: rest => do
    guard (isPlain c)
    let (cs, rest) ← readBasic fuel rest
    return (c :: cs, rest)

/-- The characters of a literal string on one line whose opening quote has been read. -/
def readLiteral : List Char → Option (List Char × List Char)
  | [] => none
  | '\'' :: rest => some ([], rest)
  | c :: rest => if isPlain c then (readLiteral rest).map fun (cs, r) => (c :: cs, r) else none

/-- The end of a string of several lines: three quotes, before which one or two may belong to the
string. -/
def closing? (quote : Char) (cs : List Char) : Option (List Char × List Char) :=
  let quotes := (cs.takeWhile (· == quote)).take 5
  if 3 ≤ quotes.length then some (quotes.drop 3, cs.drop quotes.length) else none

/-- The text after a backslash that ends a line: the blanks and line breaks that follow do not
belong to the string. -/
def continuation? (cs : List Char) : Option (List Char) := do
  let rest ← lineBreak? (skipBlanks cs)
  return skipWhite (rest.length + 1) rest
where
  skipWhite : Nat → List Char → List Char
    | 0, cs => cs
    | fuel + 1, cs =>
      match lineBreak? (skipBlanks cs) with
      | some rest => skipWhite fuel rest
      | none => skipBlanks cs

/-- The characters of a string of several lines whose opening quotes have been read. -/
def readBasicLines : Nat → List Char → Option (List Char × List Char)
  | 0, _ | _, [] => none
  | fuel + 1, c :: rest =>
    match closing? '"' (c :: rest), c, rest with
    | some closed, _, _ => some closed
    | none, '\\', rest =>
      match continuation? rest with
      | some rest => readBasicLines fuel rest
      | none => do
        let (c, rest) ← readEscape rest
        let (cs, rest) ← readBasicLines fuel rest
        return (c :: cs, rest)
    | none, '\r', '\n' :: rest => do
      let (cs, rest) ← readBasicLines fuel rest
      return ('\r' :: '\n' :: cs, rest)
    | none, c, rest => do
      guard (isPlain c || c == '\n')
      let (cs, rest) ← readBasicLines fuel rest
      return (c :: cs, rest)

/-- The characters of a literal string of several lines whose opening quotes have been read. -/
def readLiteralLines : List Char → Option (List Char × List Char)
  | [] => none
  | c :: rest =>
    match closing? '\'' (c :: rest) with
    | some closed => some closed
    | none =>
      if isPlain c || c == '\n' || (c == '\r' && rest.head? == some '\n') then
        (readLiteralLines rest).map fun (cs, r) => (c :: cs, r)
      else none

/-- The text without a line break it begins with. -/
def dropLineBreak (cs : List Char) : List Char := (lineBreak? cs).getD cs

/-- A string of any kind. -/
def readString (cs : List Char) : Option (String × List Char) :=
  let read : Option (List Char × List Char) :=
    match cs with
    | '"' :: '"' :: '"' :: rest => readBasicLines (rest.length + 1) (dropLineBreak rest)
    | '\'' :: '\'' :: '\'' :: rest => readLiteralLines (dropLineBreak rest)
    | '"' :: rest => readBasic (rest.length + 1) rest
    | '\'' :: rest => readLiteral rest
    | _ => none
  read.map fun (cs, rest) => (String.ofList cs, rest)

/-! ## Keys -/

/-- Whether a character may stand in a key without quotes. -/
def isBareKeyChar (c : Char) : Bool := c.isAlphanum || c == '_' || c == '-'

/-- One part of a key, which is a string on one line or has no quotes. -/
def readKeyPart (cs : List Char) : Option (String × List Char) :=
  match cs with
  | '"' :: '"' :: '"' :: _ | '\'' :: '\'' :: '\'' :: _ => none
  | '"' :: _ | '\'' :: _ => readString cs
  | cs =>
    match cs.takeWhile isBareKeyChar with
    | [] => none
    | key => some (String.ofList key, cs.drop key.length)

/-- The parts of a key, of which there is at least one and at most a given number, up to the last,
and the text after the blanks that follow. -/
def readKey : Nat → List Char → Option (List String × String × List Char)
  | 0, _ => none
  | count + 1, cs => do
    let (part, rest) ← readKeyPart (skipBlanks cs)
    match skipBlanks rest with
    | '.' :: rest =>
      let (path, last, rest) ← readKey count rest
      return (part :: path, last, rest)
    | rest => return ([], part, rest)

/-! ## Values -/

/-- The number of arrays and tables between braces that may be nested, and of parts that a key may
have. -/
def maxNesting : Nat := 80

/-- Whether a character ends a number, a truth value or a time. -/
def isDelimiter (c : Char) : Bool :=
  [' ', '\t', '\r', '\n', '=', ',', '[', ']', '\x7b', '\x7d', '#'].contains c

/-- The value that a word spells: a truth value, a time or a number. -/
def ofWord? (word : List Char) : Option Value :=
  if word == ['t', 'r', 'u', 'e'] || word == ['f', 'a', 'l', 's', 'e'] then some .boolean
  else if isTime word then some .time
  else (Numeral.ofText? word).map .number

/-- A truth value, a number or a time. A blank may stand between a date and a time of day. -/
def readWord (cs : List Char) : Option (Value × List Char) :=
  let word := cs.takeWhile (!isDelimiter ·)
  let rest := cs.drop word.length
  let clock := (rest.drop 1).takeWhile (!isDelimiter ·)
  if isDate word && rest.head? == some ' ' && clock.head?.any Char.isDigit then
    (ofWord? (word ++ ' ' :: clock)).map (·, rest.drop (clock.length + 1))
  else (ofWord? word).map (·, rest)

mutual

/-- A value. `depth` is the number of arrays and tables that may still be nested. -/
def readValue : Nat → Nat → List Char → Option (Value × List Char)
  | 0, _, _ => none
  | fuel + 1, depth, cs =>
    match cs with
    | '"' :: _ | '\'' :: _ => (readString cs).map fun (s, rest) => (.string s, rest)
    | '[' :: rest =>
      match depth with
      | 0 => none
      | depth + 1 => (readItems fuel depth rest).map fun (items, rest) => (.array items, rest)
    | '\x7b' :: rest =>
      match depth with
      | 0 => none
      | depth + 1 =>
        (readInline fuel depth .inline [] rest).map fun (entries, rest) =>
          (.table .inline entries, rest)
    | cs => readWord cs

/-- The items of an array up to its closing bracket; a comma may follow the last. -/
def readItems : Nat → Nat → List Char → Option (List Value × List Char)
  | 0, _, _ => none
  | fuel + 1, depth, cs =>
    match skipGap cs with
    | ']' :: rest => some ([], rest)
    | cs =>
      match readValue fuel depth cs with
      | none => none
      | some (item, rest) =>
        match skipGap rest with
        | ',' :: rest => (readItems fuel depth rest).map fun (items, rest) => (item :: items, rest)
        | ']' :: rest => some ([item], rest)
        | _ => none

/-- The entries of a table between braces up to its closing brace, added to those read before; a
comma may follow the last. -/
def readInline : Nat → Nat → Origin → Entries → List Char → Option (Entries × List Char)
  | 0, _, _, _, _ => none
  | fuel + 1, depth, origin, entries, cs =>
    match skipGap cs with
    | '\x7d' :: rest => some (entries, rest)
    | cs =>
      match readKey maxNesting cs with
      | none => none
      | some (path, key, rest) =>
        match skipGap rest with
        | '=' :: rest =>
          match readValue fuel depth (skipGap rest) with
          | none => none
          | some (value, rest) =>
            match Entries.insert? path key value origin entries with
            | none => none
            | some (origin, entries) =>
              match skipGap rest with
              | ',' :: rest => readInline fuel depth origin entries rest
              | '\x7d' :: rest => some (entries, rest)
              | _ => none
        | _ => none

end

/-! ## Documents -/

/-- The entries of the lines of a document, added to those read before. `header` is the path of the
table that the last header has opened. -/
def readLines : Nat → List String → Entries → List Char → Option Entries
  | 0, _, _, _ => none
  | fuel + 1, header, entries, cs =>
    match skipGap cs with
    | [] => some entries
    | '[' :: '[' :: rest => do
      let (path, key, rest) ← readKey maxNesting rest
      match rest with
      | ']' :: ']' :: rest =>
        readLines fuel (path ++ [key]) (← entries.openElement? path key) (← nextLine? rest)
      | _ => none
    | '[' :: rest => do
      let (path, key, rest) ← readKey maxNesting rest
      match rest with
      | ']' :: rest =>
        readLines fuel (path ++ [key]) (← entries.openTable? path key) (← nextLine? rest)
      | _ => none
    | cs => do
      let (path, key, rest) ← readKey maxNesting cs
      match rest with
      | '=' :: rest =>
        let (value, rest) ← readValue (2 * rest.length + 1) maxNesting (skipBlanks rest)
        readLines fuel header (← entries.insertUnder? header path key value) (← nextLine? rest)
      | _ => none

/-- The entries of a document, which may begin with a byte order mark. -/
def read? (s : String) : Option Entries :=
  let cs := match s.toList with
    | '\ufeff' :: rest => rest
    | cs => cs
  readLines (cs.length + 1) [] [] cs

end ObservationQuery.Toml
