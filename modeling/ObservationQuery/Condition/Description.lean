import ObservationQuery.Compile.Error
import ObservationQuery.Sql.Query
import ObservationQuery.Text.Blank

/-!
# Conditions on descriptions

* `Condition.mentions` — one of some keywords occurs in one of some texts.
* `Condition.hasProperty` — one of some property URIs occurs anywhere in a document.
-/

namespace ObservationQuery.Condition

/-! ## Keywords -/

/-- Whether a character has a meaning in a regular expression. -/
def isRegexSpecial (c : Char) : Bool :=
  c ∈ ['\\', '.', '+', '*', '?', '(', ')', '|', '[', ']', '\x7b', '\x7d', '^', '$', '#', '&', '-',
    '~']

/-- A character as a regular expression that matches it alone. -/
def escapeRegex (c : Char) : List Char := if isRegexSpecial c then ['\\', c] else [c]

/-- A text as a regular expression that matches it alone. -/
def literalRegex (s : String) : String := String.ofList (s.toList.flatMap escapeRegex)

/-- The keywords that are not blank, without the blanks around them. -/
def trimmedKeywords (search : TextFilter) : List String :=
  (search.keywords.map Text.trim).filter (· != "")

/-- The regular expression that matches any of the keywords. -/
def keywordPattern (keywords : List String) : String :=
  "(" ++ "|".intercalate (keywords.map literalRegex) ++ ")"

/-- One of the keywords occurs in one of the texts. -/
def mentions (exprs : List Expr) (search : TextFilter) : Except CompileError Condition :=
  let keywords := trimmedKeywords search
  if keywords = [] then .error (.invalidFilter .noKeywords)
  else
    match anyOf? (exprs.map fun e => .matchesRegex e (keywordPattern keywords)) with
    | some condition => .ok condition
    | none => .error (.invalidFilter .nothingToSearch)

/-! ## Properties -/

/-- A character inside a string of a JSON path. -/
def escapePath (c : Char) : List Char := if c = '\\' ∨ c = '"' then ['\\', c] else [c]

/-- The test that a value is the text `uri`. -/
def pathTest (uri : String) : String :=
  "@ == \"" ++ String.ofList (uri.toList.flatMap escapePath) ++ "\""

/-- The path of the values, at any depth, that are one of the URIs. -/
def propertyPath (uris : NameSet) : String :=
  "$.** ? (" ++ " || ".intercalate (uris.toList.map pathTest) ++ ")"

/-- One of the URIs occurs anywhere in a document. -/
def hasProperty (document : Expr) (uris : NameSet) : Option Condition :=
  if uris.isEmpty then none else some (.of (.hasPath document (propertyPath uris)))

end ObservationQuery.Condition
