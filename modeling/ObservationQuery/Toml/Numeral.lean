import ObservationQuery.Double

/-!
# TOML numbers

A number is first only told apart from other values, and read when its value is asked for. So a
document can hold a number without a value: one that is out of range, or `0x` without digits.

* `Toml.Numeral` — a number as a document spells it, without its underscores.
* `Toml.Numeral.ofText?` — the number that a text spells.
* `Toml.Numeral.hasValue` — integers lie between -2¹²⁷ and 2¹²⁸ - 1, other numbers are doubles.
-/

namespace ObservationQuery.Toml

open Text (ofDecimal)

/-- A number as a document spells it, without its underscores. -/
inductive Numeral where
  | integer (isNegative : Bool) (radix : Nat) (digits : List Char)
  /-- `magnitude * 10 ^ exponent` but for its sign, written with a fraction or an exponent. -/
  | decimal (magnitude : Nat) (exponent : Int)
  /-- An infinity, or no number. -/
  | special
  deriving DecidableEq, Repr

/-! ## Digits -/

/-- Whether a character is a hexadecimal digit. -/
def isHexDigit (c : Char) : Bool :=
  c.isDigit || ('a' ≤ c && c ≤ 'f') || ('A' ≤ c && c ≤ 'F')

/-- The value of a hexadecimal digit. -/
def digitValue (c : Char) : Nat :=
  if c.isDigit then c.toNat - 48 else if 'a' ≤ c then c.toNat - 87 else c.toNat - 55

/-- Whether a character is a digit of a radix of at most 16. -/
def isDigitOf (radix : Nat) (c : Char) : Bool := isHexDigit c && digitValue c < radix

/-- The number that digits of a radix stand for. -/
def ofDigits (radix : Nat) (digits : List Char) : Nat :=
  digits.foldl (fun n c => radix * n + digitValue c) 0

/-- Whether every underscore stands between two digits. -/
def isSpaced (isDigit : Char → Bool) (cs : List Char) : Bool :=
  cs.head? != some '_' && cs.getLast? != some '_' &&
    (cs.zip cs.tail).all fun (a, b) => (a != '_' || isDigit b) && (b != '_' || isDigit a)

/-- The text without its underscores. -/
def dropUnderscores (cs : List Char) : List Char := cs.filter (· != '_')

/-- Whether a text consists of decimal digits, at least one, with underscores between them. -/
def isDigitRun (cs : List Char) : Bool :=
  !cs.isEmpty && isSpaced Char.isDigit cs && (dropUnderscores cs).all Char.isDigit

/-- The text without a sign it begins with. -/
def dropSign : List Char → List Char
  | '+' :: cs | '-' :: cs => cs
  | cs => cs

/-! ## Numbers -/

namespace Numeral

/-- The integer of a radix other than ten that a text spells after its mark. -/
def ofRadix? (radix : Nat) (cs : List Char) : Option Numeral :=
  if isSpaced isHexDigit cs && (dropUnderscores cs).all (isDigitOf radix) then
    some (.integer false radix (dropUnderscores cs))
  else none

/-- The decimal integer that a text spells after its sign: digits without a leading zero. After its
first underscore only the characters beside underscores matter here. -/
def ofWhole? (isNegative : Bool) (cs : List Char) : Option Numeral :=
  let tail := cs.dropWhile Char.isDigit
  if (cs.head?.any Char.isDigit && (cs.head? != some '0' || cs == ['0'])) &&
      (tail.isEmpty || tail.head? == some '_') && isSpaced isHexDigit cs then
    some (.integer isNegative 10 (dropUnderscores cs))
  else none

/-- The number with a fraction, an exponent or both that a text spells after its sign. Only the
exponent may have leading zeros. -/
def ofFraction? (cs : List Char) : Option Numeral :=
  let isMark (c : Char) : Bool := c == 'e' || c == 'E'
  let mantissa := cs.takeWhile (!isMark ·)
  let exponent := cs.drop mantissa.length
  let whole := mantissa.takeWhile (· != '.')
  let fraction := mantissa.drop whole.length
  let power := dropSign (exponent.drop 1)
  if isDigitRun whole && (whole.head? != some '0' || whole == ['0']) &&
      (fraction.isEmpty || isDigitRun (fraction.drop 1)) &&
      (exponent.isEmpty || isDigitRun power) && !(fraction.isEmpty && exponent.isEmpty) then
    let digits := dropUnderscores (whole ++ fraction.drop 1)
    let shift := (dropUnderscores (fraction.drop 1)).length
    let scale := ofDecimal (dropUnderscores power)
    let isNegative := (exponent.drop 1).head? == some '-'
    some (.decimal (ofDecimal digits) ((if isNegative then -(scale : Int) else scale) - shift))
  else none

/-- The number that a text spells; one with a radix other than ten has no sign. -/
def ofText? (cs : List Char) : Option Numeral :=
  match cs with
  | '0' :: 'x' :: cs => ofRadix? 16 cs
  | '0' :: 'o' :: cs => ofRadix? 8 cs
  | '0' :: 'b' :: cs => ofRadix? 2 cs
  | cs =>
    let magnitude := dropSign cs
    if magnitude == ['i', 'n', 'f'] || magnitude == ['n', 'a', 'n'] then some .special
    else if magnitude.any fun c => c == '.' || c == 'e' || c == 'E' then ofFraction? magnitude
    else ofWhole? (cs.head? == some '-') magnitude

/-- Whether a number has a value: an integer has digits of its radix and 128 bits hold it, with a
sign if it is negative; any other number rounds to a double. -/
def hasValue : Numeral → Bool
  | integer isNegative radix digits =>
    !digits.isEmpty && digits.all (isDigitOf radix) &&
      (if isNegative then ofDigits radix digits ≤ Nat.pow 2 127
        else ofDigits radix digits < Nat.pow 2 128)
  | decimal magnitude exponent => Double.isFinite magnitude exponent
  | special => true

end Numeral

end ObservationQuery.Toml
