/-!
# SQL tokens

* `Token` — a keyword, a mark, a number or a fragment of SQL; `Token.text` is how it is written.
* `TokenStream` — tokens in order; `TokenStream.text` writes them one after another, so that blanks
  are tokens too (`TokenStream.text_append`).
* `TokenStream.separated` — fragments with a separator between them.
-/

namespace ObservationQuery

/-- An element of an SQL text. -/
inductive Token where
  | select
  | distinct
  | on
  | from
  | inner
  | join
  | where
  | and
  | as
  | orderBy
  | asc
  | desc
  | limit
  | count
  | comma
  | dot
  | star
  | leftParen
  | rightParen
  | space
  /-- An unsigned integer. -/
  | natural (n : UInt64)
  /-- A fragment that is SQL already. -/
  | fragment (sql : String)
  deriving DecidableEq, Repr

/-- How a token is written. -/
def Token.text : Token → String
  | select => "SELECT"
  | distinct => "DISTINCT"
  | on => "ON"
  | «from» => "FROM"
  | inner => "INNER"
  | join => "JOIN"
  | «where» => "WHERE"
  | and => "AND"
  | as => "AS"
  | orderBy => "ORDER BY"
  | asc => "ASC"
  | desc => "DESC"
  | limit => "LIMIT"
  | count => "COUNT"
  | comma => ","
  | dot => "."
  | star => "*"
  | leftParen => "("
  | rightParen => ")"
  | space => " "
  | natural n => n.toNat.repr
  | fragment sql => sql

/-- Tokens in the order in which they are written. -/
abbrev TokenStream := List Token

namespace TokenStream

/-- The tokens written one after another. -/
def text (tokens : TokenStream) : String := String.join (tokens.map Token.text)

@[simp] theorem text_nil : text [] = "" := rfl

@[simp] theorem text_append (a b : TokenStream) : text (a ++ b) = text a ++ text b := by
  apply String.toList_injective
  simp [text]

/-- A separator with its blanks: a comma has one after it, any other token one on either side. -/
def separator (token : Token) : TokenStream :=
  if token = .comma then [.comma, .space] else [.space, token, .space]

/-- Fragments with a separator between them. -/
def separated (token : Token) (fragments : List String) : TokenStream :=
  (separator token).intercalate (fragments.map fun sql => [.fragment sql])

end TokenStream

end ObservationQuery
