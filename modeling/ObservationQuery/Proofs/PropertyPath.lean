import Mathlib.Data.List.Forall2
import ObservationQuery.Proofs.Condition
import ObservationQuery.Proofs.Sql.Reading

/-!
# Property URIs in a JSON path

The URIs of properties are strings of a JSON path, and the path is a string literal: each URI is
written in one language inside another. It is read back in two steps, the literal first.

* `PathToken`, `readPath` — a JSON path as its tokens.
* `pathTokens` — the tokens of the path of the values that are one of some texts.
* `SpellsTexts` — a path consists of one test for each text.

Principal result: `spellsTexts_hasProperty` — the path of a property condition consists of one test
for each URI, whatever the characters of the URIs, and ends with the literal.
-/

namespace ObservationQuery

open Sql

/-! ## Tokens -/

/-- A token of a JSON path. -/
inductive PathToken where
  | root
  | dot
  /-- Members and items at any depth. -/
  | anyDepth
  | filter
  | leftParen
  | rightParen
  /-- The value that is tested. -/
  | current
  | equals
  | or
  | text (value : String)
  deriving DecidableEq, Repr

/-- The tokens of a JSON path, given the characters that have been read of a string, if the text
begins inside one. A backslash in a string takes the next character as it is. -/
def readPathFrom : Option (List Char) → List Char → Option (List PathToken)
  | none, [] => some []
  | none, '"' :: cs => readPathFrom (some []) cs
  | none, ' ' :: cs => readPathFrom none cs
  | none, '$' :: cs => (readPathFrom none cs).map (.root :: ·)
  | none, '.' :: cs => (readPathFrom none cs).map (.dot :: ·)
  | none, '*' :: '*' :: cs => (readPathFrom none cs).map (.anyDepth :: ·)
  | none, '?' :: cs => (readPathFrom none cs).map (.filter :: ·)
  | none, '(' :: cs => (readPathFrom none cs).map (.leftParen :: ·)
  | none, ')' :: cs => (readPathFrom none cs).map (.rightParen :: ·)
  | none, '@' :: cs => (readPathFrom none cs).map (.current :: ·)
  | none, '=' :: '=' :: cs => (readPathFrom none cs).map (.equals :: ·)
  | none, '|' :: '|' :: cs => (readPathFrom none cs).map (.or :: ·)
  | none, _ :: _ => none
  | some _, [] => none
  | some _, ['\\'] => none
  | some front, '\\' :: c :: cs => readPathFrom (some (front ++ [c])) cs
  | some front, '"' :: cs => (readPathFrom none cs).map (.text (String.ofList front) :: ·)
  | some front, c :: cs => readPathFrom (some (front ++ [c])) cs

/-- The tokens of a JSON path. -/
def readPath (path : String) : Option (List PathToken) := readPathFrom none path.toList

/-- The tokens of the test that a value is a text. -/
def testTokens (value : String) : List PathToken := [.current, .equals, .text value]

/-- The tokens of alternatives. -/
def alternativeTokens (values : List String) : List PathToken :=
  [PathToken.or].intercalate (values.map testTokens)

/-- The tokens of the path of the values, at any depth, that are one of some texts. -/
def pathTokens (values : List String) : List PathToken :=
  [.root, .dot, .anyDepth, .filter, .leftParen] ++ alternativeTokens values ++ [.rightParen]

/-- The text of a token, if it is a string. -/
def PathToken.text? : PathToken → Option String
  | text value => some value
  | _ => none

theorem alternativeTokens_cons_cons (value next : String) (values : List String) :
    alternativeTokens (value :: next :: values) =
      testTokens value ++ .or :: alternativeTokens (next :: values) := by
  rw [alternativeTokens, List.map_cons, List.map_cons, List.intercalate_cons_cons, ← List.map_cons,
    List.append_assoc]
  rfl

theorem texts_alternativeTokens :
    ∀ values : List String, (alternativeTokens values).filterMap PathToken.text? = values
  | [] => rfl
  | [_] => rfl
  | value :: next :: values => by
    have ih := texts_alternativeTokens (next :: values)
    rw [alternativeTokens_cons_cons, List.filterMap_append]
    exact congrArg (value :: ·) ih

/-- The texts are those of the tokens, so that no others have the same tokens. -/
theorem texts_pathTokens (values : List String) :
    (pathTokens values).filterMap PathToken.text? = values := by
  rw [pathTokens, List.filterMap_append, List.filterMap_append, texts_alternativeTokens]
  exact List.append_nil values

/-! ## What is written -/

/-- An escaped character belongs to the string that is being read. -/
theorem readPathFrom_escapePath (front : List Char) (c : Char) (rest : List Char) :
    readPathFrom (some front) (Condition.escapePath c ++ rest) =
      readPathFrom (some (front ++ [c])) rest := by
  unfold Condition.escapePath
  split
  · rfl
  · rename_i hc
    obtain ⟨hslash, hquote⟩ := not_or.mp hc
    rw [List.singleton_append, readPathFrom]
    · exact fun heq _ => hslash heq
    · exact fun _ _ heq _ => hslash heq
    · exact hquote

/-- An escaped text ends where its string is closed. -/
theorem readPathFrom_escaped (rest : List Char) : ∀ value front : List Char,
    readPathFrom (some front) (value.flatMap Condition.escapePath ++ '"' :: rest) =
      (readPathFrom none rest).map (.text (String.ofList (front ++ value)) :: ·)
  | [], front => by
    rw [List.append_nil]
    rfl
  | c :: value, front => by
    rw [List.flatMap_cons, List.append_assoc, readPathFrom_escapePath,
      readPathFrom_escaped rest value, List.append_assoc, List.singleton_append]

theorem readPathFrom_pathTest (uri : String) (rest : List Char) :
    readPathFrom none ((Condition.pathTest uri).toList ++ rest) =
      (readPathFrom none rest).map (testTokens uri ++ ·) := by
  have htext : (Condition.pathTest uri).toList ++ rest =
      "@ == \"".toList ++ (uri.toList.flatMap Condition.escapePath ++ '"' :: rest) := by
    simp [Condition.pathTest]
  have hstring := readPathFrom_escaped rest uri.toList []
  rw [List.nil_append, String.ofList_toList] at hstring
  have hopen : readPathFrom none ("@ == \"".toList ++
      (uri.toList.flatMap Condition.escapePath ++ '"' :: rest)) =
      ((readPathFrom (some []) (uri.toList.flatMap Condition.escapePath ++ '"' :: rest)).map
        (.equals :: ·)).map (.current :: ·) := rfl
  rw [htext, hopen, hstring, Option.map_map, Option.map_map]
  rfl

/-- A test is read alone as well as among others. -/
theorem readPath_pathTest (uri : String) :
    readPath (Condition.pathTest uri) = some (testTokens uri) := by
  have hread := readPathFrom_pathTest uri []
  rwa [List.append_nil] at hread

/-- Alternatives are read one after another. -/
theorem readPathFrom_alternatives (rest : List Char) : ∀ {uris : List String}, uris ≠ [] →
    readPathFrom none
        (" || ".toList.intercalate (uris.map fun uri => (Condition.pathTest uri).toList) ++ rest) =
      (readPathFrom none rest).map (alternativeTokens uris ++ ·)
  | [uri], _ => by
    have hread := readPathFrom_pathTest uri rest
    rwa [List.map_cons, List.map_nil, List.intercalate_singleton]
  | uri :: next :: uris, _ => by
    have ih := readPathFrom_alternatives rest (List.cons_ne_nil next uris)
    have hbar : ∀ more, readPathFrom none (" || ".toList ++ more) =
        (readPathFrom none more).map (.or :: ·) := fun _ => rfl
    rw [List.map_cons] at ih
    rw [List.map_cons, List.map_cons, List.intercalate_cons_cons, List.append_assoc,
      List.append_assoc, readPathFrom_pathTest, hbar, ih, Option.map_map, Option.map_map,
      alternativeTokens_cons_cons]
    simp only [Function.comp_def, List.append_assoc, List.cons_append]

theorem readPath_propertyPath {uris : NameSet} (h : uris.toList ≠ []) :
    readPath (Condition.propertyPath uris) = some (pathTokens uris.toList) := by
  have htext : (Condition.propertyPath uris).toList = "$.** ? (".toList ++
      (" || ".toList.intercalate
        (uris.toList.map fun uri => (Condition.pathTest uri).toList) ++ ")".toList) := by
    simp only [Condition.propertyPath, String.toList_append, String.toList_intercalate,
      List.map_map, List.append_assoc, Function.comp_def]
  have hclose : readPathFrom none ")".toList = some [.rightParen] := rfl
  have hopen : ∀ more, readPathFrom none ("$.** ? (".toList ++ more) =
      (readPathFrom none more).map ([.root, .dot, .anyDepth, .filter, .leftParen] ++ ·) := by
    intro more
    have hread : readPathFrom none ("$.** ? (".toList ++ more) =
        (((((readPathFrom none more).map (.leftParen :: ·)).map (.filter :: ·)).map
          (.anyDepth :: ·)).map (.dot :: ·)).map (.root :: ·) := rfl
    rw [hread, Option.map_map, Option.map_map, Option.map_map, Option.map_map]
    rfl
  rw [readPath, htext, hopen, readPathFrom_alternatives _ h, hclose]
  rfl

/-! ## Property conditions -/

/-- A path is a choice between tests, one for each text in their order, and has no other tokens. -/
structure SpellsTexts (values : List String) (path : String) : Prop where
  tests : ∃ tests, path = "$.** ? (" ++ " || ".intercalate tests ++ ")" ∧
    List.Forall₂ (fun value test => readPath test = some (testTokens value)) values tests
  tokens : readPath path = some (pathTokens values)

theorem SpellsTexts.eq {values others : List String} {path : String}
    (h : SpellsTexts values path) (hothers : SpellsTexts others path) : values = others := by
  have htokens := Option.some.inj (h.tokens.symm.trans hothers.tokens)
  rw [← texts_pathTokens values, htokens, texts_pathTokens]

theorem spellsTexts_propertyPath {uris : NameSet} (h : uris.toList ≠ []) :
    SpellsTexts uris.toList (Condition.propertyPath uris) where
  tests := by
    refine ⟨_, rfl, ?_⟩
    rw [List.forall₂_map_right_iff, List.forall₂_same]
    exact fun uri _ => readPath_pathTest uri
  tokens := readPath_propertyPath h

/-- A condition on properties has one literal, that of its path. -/
theorem text_hasProperty {document : Expr} {uris : NameSet} {c : Condition}
    (h : c ∈ Condition.hasProperty document uris) :
    uris.toList ≠ [] ∧ c.text =
      "jsonb_path_exists(" ++ document.text ++ ", " ++ quote (Condition.propertyPath uris) ++
        ")" := by
  unfold Condition.hasProperty at h
  split at h
  · cases h
  · rename_i hne
    cases h
    refine ⟨fun hnil => hne ?_, rfl⟩
    rw [SortedSet.isEmpty, hnil]
    rfl

/-- Conditions on the properties of one document that have the same text are about the same URIs:
the literal is read back to the path, and the path to its texts. -/
theorem hasProperty_inj {document : Expr} {uris others : NameSet} {c d : Condition}
    (hc : c ∈ Condition.hasProperty document uris) (hd : d ∈ Condition.hasProperty document others)
    (htext : c.text = d.text) : uris = others := by
  obtain ⟨huris, hctext⟩ := text_hasProperty hc
  obtain ⟨hothers, hdtext⟩ := text_hasProperty hd
  rw [hctext, hdtext, String.append_left_inj, String.append_right_inj] at htext
  have hread := congrArg (readLiteral ·.toList) htext
  simp only [readLiteral_quote_self, Option.some.injEq, Prod.mk.injEq, and_true] at hread
  have hspells := spellsTexts_propertyPath huris
  rw [hread] at hspells
  exact SortedSet.ext (hspells.eq (spellsTexts_propertyPath hothers))

/-- **A set of URIs that is not empty has a condition, whose one literal ends with the parenthesis
of the function. Its path consists of one test for each URI, in the order of the set, whatever
characters they are of; no other set has the same condition.** -/
theorem spellsTexts_hasProperty (table : String) {uris : NameSet} (h : uris ≠ ∅) :
    ∃ c literal path, Condition.hasProperty (.column table "data") uris = some c ∧
      c.text = "jsonb_path_exists(" ++ table ++ ".data, " ++ literal ++ ")" ∧
      readLiteral (literal ++ ")").toList = some (path, [')']) ∧ SpellsTexts uris.toList path ∧
      ∀ others ≠ uris, ∀ d ∈ Condition.hasProperty (.column table "data") others,
        d.text ≠ c.text := by
  have hne : uris.toList ≠ [] := fun hnil => h (SortedSet.ext hnil)
  have hsome : Condition.hasProperty (.column table "data") uris =
      some (.of (.hasPath (.column table "data") (Condition.propertyPath uris))) := by
    rw [Condition.hasProperty, if_neg]
    exact fun hempty => hne (SortedSet.toList_of_isEmpty hempty)
  refine ⟨_, quote (Condition.propertyPath uris), Condition.propertyPath uris, hsome, ?_, ?_,
    spellsTexts_propertyPath hne, fun others hothers d hd htext => ?_⟩
  · have htext := (text_hasProperty hsome).2
    have hdocument : (Expr.column table "data").text = table ++ ".data" := by
      simp only [Expr.text, String.append_assoc]
      rfl
    rw [htext, hdocument]
    simp only [String.append_assoc]
    rfl
  · have hrest : [')'].head? ≠ some '\'' := by decide
    rw [String.toList_append]
    exact readLiteral_quote _ hrest
  · exact hothers (hasProperty_inj hd hsome htext)

/-- A URI that would close its string and add a test, one that ends with a backslash and one with
the quote of the literal are three texts. -/
theorem spellsTexts_hasProperty_marks :
    let uris : NameSet := .ofList ["urn:\" || @ == \"b", "urn:\\", "urn:\'"]
    ∃ c literal path, Condition.hasProperty (.column "streams" "data") uris = some c ∧
      c.text = "jsonb_path_exists(streams.data, " ++ literal ++ ")" ∧
      readLiteral (literal ++ ")").toList = some (path, [')']) ∧
      readPath path = some [.root, .dot, .anyDepth, .filter, .leftParen,
        .current, .equals, .text "urn:\" || @ == \"b", .or, .current, .equals, .text "urn:\'", .or,
        .current, .equals, .text "urn:\\", .rightParen] := by
  intro uris
  have hne : uris ≠ ∅ := by decide
  obtain ⟨c, literal, path, hc, htext, hliteral, hspells, -⟩ :=
    spellsTexts_hasProperty "streams" hne
  refine ⟨c, literal, path, hc, htext, hliteral, ?_⟩
  have huris : uris.toList = ["urn:\" || @ == \"b", "urn:'", "urn:\\"] := by decide
  rw [hspells.tokens, huris]
  rfl

end ObservationQuery
