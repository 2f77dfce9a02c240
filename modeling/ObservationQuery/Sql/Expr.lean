import ObservationQuery.Sql.Literal
import ObservationQuery.Text.Decimal

/-!
# SQL expressions

* `Expr` — the value of a column, the text at a path in the document of a row, or SQL given as text.
* `Expr.text` — how an expression is written.
* `Expr.keyText` — how a key of one or several expressions is written.
-/

namespace ObservationQuery

/-- A step into a JSON document. -/
inductive PathStep where
  | member (name : String)
  | item (index : Nat)
  deriving DecidableEq, Repr

/-- The types to which values are converted. -/
inductive SqlType where
  | bigint
  | timestamptz
  deriving DecidableEq, Repr

/-- The value of an SQL expression in a row. -/
inductive Expr where
  /-- SQL that is given as text. -/
  | fragment (sql : String)
  /-- A column of a table. -/
  | column (table name : String)
  /-- The text at a path in the JSON document of a table, which is in the column `data`. -/
  | documentText (table : String) (path : List PathStep)
  /-- An expression in parentheses. -/
  | group (e : Expr)
  /-- An expression as a value of a type. -/
  | cast (e : Expr) (type : SqlType)
  deriving DecidableEq, Repr

/-- How a step is written. -/
def PathStep.text : PathStep → String
  | member name => Sql.quote name
  | item index => String.ofList (Text.decimal index)

/-- How a type is written. -/
def SqlType.text : SqlType → String
  | bigint => "bigint"
  | timestamptz => "timestamptz"

namespace Expr

/-- How a path is written: the last step gives a text, the others documents. -/
def pathText : List PathStep → String
  | [] => ""
  | [last] => "->>" ++ last.text
  | step :: path => "->" ++ step.text ++ pathText path

/-- How an expression is written. -/
def text : Expr → String
  | fragment sql => sql
  | column table name => table ++ "." ++ name
  | documentText table path => table ++ ".data" ++ pathText path
  | group e => "(" ++ e.text ++ ")"
  | cast e type => "(" ++ e.text ++ ")::" ++ type.text

/-- How a key is written: a single expression as it is, several as a row. -/
def keyText : List Expr → String
  | [e] => e.text
  | key => "(" ++ ", ".intercalate (key.map text) ++ ")"

end Expr

end ObservationQuery
