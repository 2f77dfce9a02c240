/-!
# SQL string literals

* `dialectName` — the dialect.
* `quote` — a text as a string literal: between single quotes, each quote in it written twice. A
  backslash is a character like any other.
-/

namespace ObservationQuery.Sql

/-- The name of the dialect in which all texts are written. -/
def dialectName : String := "postgres"

/-- A character inside a string literal. -/
def escapeQuote (c : Char) : List Char := if c = '\'' then ['\'', '\''] else [c]

/-- A text as a string literal. -/
def quote (s : String) : String :=
  String.ofList ('\'' :: s.toList.flatMap escapeQuote ++ ['\''])

@[simp] theorem toList_quote (s : String) :
    (quote s).toList = '\'' :: s.toList.flatMap escapeQuote ++ ['\''] := by
  simp [quote]

end ObservationQuery.Sql
