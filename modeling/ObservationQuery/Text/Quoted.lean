import ObservationQuery.Text.Invisible

/-!
# Quoted texts for messages

* `quotedChar` — how one character is written between double quotes.
* `quoted` — a text between double quotes, with every character that would not show written by
  name or by number.
-/

namespace ObservationQuery.Text

/-- A character between double quotes: a quote or a backslash after a backslash, the common
controls by letter, a character without a visible form by its number. -/
def quotedChar (c : Char) : List Char :=
  match c with
  | '"' => ['\\', '"']
  | '\\' => ['\\', '\\']
  | '\x00' => ['\\', '0']
  | '\t' => ['\\', 't']
  | '\r' => ['\\', 'r']
  | '\n' => ['\\', 'n']
  | c =>
    if isInvisible c then ['\\', 'u', '\x7b'] ++ Nat.toDigits 16 c.toNat ++ ['\x7d'] else [c]

/-- A text between double quotes. -/
def quoted (s : String) : String :=
  String.ofList ('"' :: s.toList.flatMap quotedChar ++ ['"'])

end ObservationQuery.Text
