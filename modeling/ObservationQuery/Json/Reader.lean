import ObservationQuery.Json.Basic
import ObservationQuery.Text.Decimal

/-!
# Reading JSON texts

The grammar is that of RFC 8259 and nothing more: the only blanks are space, tab, line feed and
carriage return, and nothing but blanks may follow the value.

* `Json.read?` — the value of a text.
* `Json.readValue`, `Json.readItems`, `Json.readMembers` — a value, the rest of an array and the
  rest of an object, each with the text that follows. Their first argument bounds the recursion;
  every opening bracket uses up two and every separator at least one, so twice the length of the
  text is enough.
-/

namespace ObservationQuery.Json

open Text

/-- The text after its leading JSON white space. -/
def skipSpace (cs : List Char) : List Char :=
  cs.dropWhile fun c => c == ' ' || c == '\t' || c == '\n' || c == '\r'

/-! ## Strings -/

/-- A part of a string literal: a character, or a surrogate code unit written by number. -/
inductive Piece where
  | char (c : Char)
  | surrogate (unit : Nat)

/-- The value of a hexadecimal digit. -/
def hexDigit? (c : Char) : Option Nat :=
  if '0' ≤ c ∧ c ≤ '9' then some (c.toNat - 48)
  else if 'a' ≤ c ∧ c ≤ 'f' then some (c.toNat - 87)
  else if 'A' ≤ c ∧ c ≤ 'F' then some (c.toNat - 55)
  else none

/-- The code unit of four hexadecimal digits. -/
def codeUnit? (a b c d : Char) : Option Nat := do
  return (((← hexDigit? a) * 16 + (← hexDigit? b)) * 16 + (← hexDigit? c)) * 16 + (← hexDigit? d)

/-- The part a code unit stands for. -/
def Piece.ofCodeUnit (unit : Nat) : Piece :=
  if 0xD800 ≤ unit ∧ unit ≤ 0xDFFF then .surrogate unit else .char (Char.ofNat unit)

/-- The parts of a string literal whose opening quote has been read. -/
def readPieces : List Char → Option (List Piece × List Char)
  | [] => none
  | '"' :: rest => some ([], rest)
  | '\\' :: '"' :: rest => (readPieces rest).map fun (ps, r) => (.char '"' :: ps, r)
  | '\\' :: '\\' :: rest => (readPieces rest).map fun (ps, r) => (.char '\\' :: ps, r)
  | '\\' :: '/' :: rest => (readPieces rest).map fun (ps, r) => (.char '/' :: ps, r)
  | '\\' :: 'b' :: rest => (readPieces rest).map fun (ps, r) => (.char '\x08' :: ps, r)
  | '\\' :: 'f' :: rest => (readPieces rest).map fun (ps, r) => (.char '\x0c' :: ps, r)
  | '\\' :: 'n' :: rest => (readPieces rest).map fun (ps, r) => (.char '\n' :: ps, r)
  | '\\' :: 'r' :: rest => (readPieces rest).map fun (ps, r) => (.char '\r' :: ps, r)
  | '\\' :: 't' :: rest => (readPieces rest).map fun (ps, r) => (.char '\t' :: ps, r)
  | '\\' :: 'u' :: a :: b :: c :: d :: rest =>
    match codeUnit? a b c d with
    | none => none
    | some unit => (readPieces rest).map fun (ps, r) => (.ofCodeUnit unit :: ps, r)
  | '\\' :: _ => none
  | c :: rest =>
    if c.toNat < 0x20 then none else (readPieces rest).map fun (ps, r) => (.char c :: ps, r)

/-- The characters of a string literal; none if a surrogate stands alone. -/
def joinPieces : List Piece → Option (List Char)
  | [] => some []
  | .char c :: ps => (joinPieces ps).map (c :: ·)
  | .surrogate high :: .surrogate low :: ps =>
    if high < 0xDC00 ∧ 0xDC00 ≤ low then
      (joinPieces ps).map (Char.ofNat (0x10000 + (high - 0xD800) * 0x400 + (low - 0xDC00)) :: ·)
    else none
  | .surrogate _ :: _ => none

/-- The value of a string literal whose opening quote has been read. -/
def readString (cs : List Char) : Option (Option String × List Char) :=
  (readPieces cs).map fun (ps, rest) => ((joinPieces ps).map String.ofList, rest)

/-! ## Numbers -/

/-- The digits after a decimal point, none of them where there is no point. -/
def readFraction (cs : List Char) : Option (Option (List Char) × List Char) :=
  match cs with
  | '.' :: cs =>
    match takeDigits cs.length cs with
    | ([], _) => none
    | (digits, rest) => some (some digits, rest)
  | cs => some (none, cs)

/-- The exponent, where there is one. -/
def readExponent (cs : List Char) : Option (Option Int × List Char) :=
  match cs with
  | 'e' :: '-' :: rest | 'E' :: '-' :: rest => digits rest fun n => -(n : Int)
  | 'e' :: '+' :: rest | 'E' :: '+' :: rest => digits rest fun n => (n : Int)
  | 'e' :: rest | 'E' :: rest => digits rest fun n => (n : Int)
  | cs => some (none, cs)
where
  digits (cs : List Char) (sign : Nat → Int) : Option (Option Int × List Char) :=
    match takeDigits cs.length cs with
    | ([], _) => none
    | (ds, rest) => some (some (sign (ofDecimal ds)), rest)

/-- A number without its sign: no zero before another digit, digits after a point. -/
def readMagnitude (negative : Bool) (cs : List Char) : Option (Json × List Char) :=
  match takeDigits cs.length cs with
  | ([], _) | ('0' :: _ :: _, _) => none
  | (whole, rest) => do
    let (fraction, rest) ← readFraction rest
    let (exponent, rest) ← readExponent rest
    let sign (n : Nat) : Int := if negative then -(n : Int) else n
    match fraction, exponent with
    | none, none =>
      if negative && ofDecimal whole == 0 then return (.decimal 0 0, rest)
      else return (.integer (sign (ofDecimal whole)), rest)
    | _, _ =>
      let digits := fraction.getD []
      return (.decimal (sign (ofDecimal (whole ++ digits)))
        (exponent.getD 0 - digits.length), rest)

/-- A number. -/
def readNumber (cs : List Char) : Option (Json × List Char) :=
  match cs with
  | '-' :: rest => readMagnitude true rest
  | cs => readMagnitude false cs

/-! ## Values -/

mutual

/-- A value, after any blanks. -/
def readValue : Nat → List Char → Option (Json × List Char)
  | 0, _ => none
  | fuel + 1, cs =>
    match skipSpace cs with
    | 'n' :: 'u' :: 'l' :: 'l' :: rest => some (.null, rest)
    | 't' :: 'r' :: 'u' :: 'e' :: rest => some (.bool true, rest)
    | 'f' :: 'a' :: 'l' :: 's' :: 'e' :: rest => some (.bool false, rest)
    | '"' :: rest => (readString rest).map fun (s, r) => (.string s, r)
    | '[' :: rest =>
      match skipSpace rest with
      | ']' :: rest => some (.array [], rest)
      | rest => (readItems fuel rest).map fun (items, r) => (.array items, r)
    | '\x7b' :: rest =>
      match skipSpace rest with
      | '\x7d' :: rest => some (.object [], rest)
      | rest => (readMembers fuel rest).map fun (members, r) => (.object members, r)
    | cs => readNumber cs

/-- The items of an array up to its closing bracket, at least one. -/
def readItems : Nat → List Char → Option (List Json × List Char)
  | 0, _ => none
  | fuel + 1, cs =>
    match readValue fuel cs with
    | none => none
    | some (item, rest) =>
      match skipSpace rest with
      | ',' :: rest => (readItems fuel rest).map fun (items, r) => (item :: items, r)
      | ']' :: rest => some ([item], rest)
      | _ => none

/-- The members of an object up to its closing brace, at least one. -/
def readMembers : Nat → List Char → Option (List (Option String × Json) × List Char)
  | 0, _ => none
  | fuel + 1, cs =>
    match skipSpace cs with
    | '"' :: rest =>
      match readString rest with
      | none => none
      | some (name, rest) =>
        match skipSpace rest with
        | ':' :: rest =>
          match readValue fuel rest with
          | none => none
          | some (value, rest) =>
            match skipSpace rest with
            | ',' :: rest =>
              (readMembers fuel rest).map fun (members, r) => ((name, value) :: members, r)
            | '\x7d' :: rest => some ([(name, value)], rest)
            | _ => none
        | _ => none
    | _ => none

end

/-- The value of a JSON text. -/
def read? (s : String) : Option Json :=
  match readValue (2 * s.toList.length + 1) s.toList with
  | some (value, rest) => if (skipSpace rest).isEmpty then some value else none
  | none => none

end ObservationQuery.Json
