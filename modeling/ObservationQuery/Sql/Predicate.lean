import ObservationQuery.Filter.Basic
import ObservationQuery.Sql.Bound
import ObservationQuery.Sql.Expr

/-!
# SQL predicates

* `Predicate` — a test on the values of a row.
* `Predicate.text` — how a predicate is written. Texts of the user are always string literals.
* `Predicate.anyText` — how alternatives are written.
-/

namespace ObservationQuery

open Sql (boundText quote)

/-- A test on the values of a row. -/
inductive Predicate where
  /-- SQL that is given as text. -/
  | fragment (sql : String)
  /-- Two expressions have the same value. -/
  | equal (left right : Expr)
  | isNull (e : Expr)
  /-- The value is one of some identifiers. -/
  | hasId (e : Expr) (ids : IdSet)
  | isText (e : Expr) (value : String)
  /-- The value is one of some texts. -/
  | hasText (e : Expr) (values : NameSet)
  /-- The value matches a pattern, in which `%` stands for any text, whatever the case. -/
  | isLike (e : Expr) (pattern : String)
  /-- A regular expression matches in the value, whatever the case. -/
  | matchesRegex (e : Expr) (pattern : String)
  /-- A JSON path finds something in a document. -/
  | hasPath (document : Expr) (path : String)
  /-- A stored geometry relates to a geometry in well-known text. -/
  | relatesTo (geometry : Expr) (relation : SpatialRelation) (wkt : String) (srid : Int32)
  /-- A stored time lies between two instants, both included. -/
  | liesWithin (time : Expr) (first last : Instant)
  /-- A stored period relates to the interval between two instants, both included. -/
  | periodRelates (start stop : Expr) (relation : PeriodRelation) (first last : Instant)
  deriving DecidableEq, Repr

/-- The numeral of an identifier. -/
def idText (id : Int64) : String := String.ofList (Text.signed id.toInt)

/-- The function that tests a relation; its first argument is the stored geometry. -/
def SpatialRelation.function : SpatialRelation → String
  | intersects => "ST_Intersects"
  | contains => "ST_Contains"
  | within => "ST_Within"

/-- The operator that tests a relation; its first argument is the stored period. -/
def PeriodRelation.operator : PeriodRelation → String
  | contains => "@>"
  | intersects => "&&"
  | equals => "="

namespace Predicate

/-- The test that the value of `e` is one of some identifiers: a single one is compared with. -/
def idsText (e : Expr) : List Int64 → String
  | [id] => e.text ++ " = " ++ idText id
  | ids => e.text ++ " IN (" ++ ", ".intercalate (ids.map idText) ++ ")"

/-- How a predicate is written. -/
def text : Predicate → String
  | fragment sql => sql
  | equal left right => left.text ++ " = " ++ right.text
  | isNull e => e.text ++ " IS NULL"
  | hasId e ids => idsText e ids.toList
  | isText e value => e.text ++ " = " ++ quote value
  | hasText e values => e.text ++ " IN (" ++ ", ".intercalate (values.toList.map quote) ++ ")"
  | isLike e pattern => e.text ++ " ILIKE " ++ quote pattern
  | matchesRegex e pattern => "(" ++ e.text ++ ") ~* " ++ quote pattern
  | hasPath document path => "jsonb_path_exists(" ++ document.text ++ ", " ++ quote path ++ ")"
  | relatesTo geometry relation wkt srid =>
    relation.function ++ "(" ++ geometry.text ++ ", ST_GeomFromText(" ++ quote wkt ++ ", " ++
      String.ofList (Text.signed srid.toInt) ++ "))"
  | liesWithin time first last =>
    "tstzrange(" ++ quote (boundText first) ++ "," ++ quote (boundText last) ++ ", '[]') @> " ++
      time.text
  | periodRelates start stop relation first last =>
    "tstzrange(" ++ (start.cast .timestamptz).text ++ "," ++ (stop.cast .timestamptz).text ++
      ") " ++ relation.operator ++ " " ++
      quote ("[" ++ boundText first ++ "," ++ boundText last ++ "]") ++ "::tstzrange"

/-- How alternatives are written: in parentheses where there are several. -/
def anyText : Predicate → List Predicate → String
  | first, [] => first.text
  | first, others => "(" ++ " OR ".intercalate ((first :: others).map text) ++ ")"

end Predicate

end ObservationQuery
