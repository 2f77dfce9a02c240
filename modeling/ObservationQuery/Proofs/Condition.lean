import Mathlib.Data.List.DropRight
import ObservationQuery.Condition.Description
import ObservationQuery.Condition.Identity
import ObservationQuery.Condition.Place
import ObservationQuery.Proofs.Sql.Values

/-!
# Conditions of criteria

* `uidText` — a unique identifier as it is written: `%` for each `*`.
* `TextFilter.pattern` — the keywords of a search as they are written: those that are not blank, in
  a group, with a bar between them.
* `propertyTexts` — some property URIs as they are written, where there are any: a JSON path with a
  test for each.
* `alternativesText` — how alternatives are written, given the text of each.

Principal results: for each condition of a criterion, what it reads, as `Condition.reads_hasId`,
and which texts of the user it holds, as `Condition.userTexts_hasUniqueId`; for each criterion that
may fail, when it has a condition, as `Condition.mentions_isOk`.
-/

namespace ObservationQuery

/-- A unique identifier as it is written: `%` for each `*`. -/
def uidText (uid : String) : String :=
  String.ofList (uid.toList.map fun c => if c = '*' then '%' else c)

/-- A text with a backslash before each of some marks. -/
def backslashed (marks : List Char) (text : String) : String :=
  String.ofList (text.toList.flatMap fun c => if c ∈ marks then ['\\', c] else [c])

/-- The characters that have a meaning somewhere in a regular expression. -/
def regexMarks : List Char := "\\.+*?()|[]\x7b\x7d^$#&-~".toList

/-- A text without the blanks at its ends. -/
def Text.stripped (s : String) : String :=
  String.ofList ((s.toList.dropWhile isBlank).rdropWhile isBlank)

/-- The keywords of a search as they are written, where they are not blank: as alternatives of one
group, each with the marks of regular expressions escaped. -/
def TextFilter.pattern (search : TextFilter) : String :=
  let words := (search.keywords.map Text.stripped).filter (· ≠ "")
  "(" ++ "|".intercalate (words.map (backslashed regexMarks)) ++ ")"

/-- A property URI as it is written: as a string in a test of a JSON path. -/
def testText (uri : String) : String := "@ == \"" ++ backslashed ['\\', '"'] uri ++ "\""

/-- Some property URIs as they are written, where there are any. -/
def propertyTexts (uris : NameSet) : List String :=
  if uris.isEmpty then []
  else ["$.** ? (" ++ " || ".intercalate (uris.toList.map testText) ++ ")"]

/-- Alternatives as they are written: in parentheses where there are several. -/
def alternativesText : List String → String
  | [text] => text
  | texts => "(" ++ " OR ".intercalate texts ++ ")"

theorem uidText_eq_self {uid : String} (h : '*' ∉ uid.toList) : uidText uid = uid := by
  have hmap : uid.toList.map (fun c => if c = '*' then '%' else c) = uid.toList.map id := by
    refine List.map_congr_left fun c hc => if_neg ?_
    rintro rfl
    exact h hc
  rw [uidText, hmap, List.map_id, String.ofList_toList]

theorem escapeRegex_eq (c : Char) :
    Condition.escapeRegex c = if c ∈ regexMarks then ['\\', c] else [c] := by
  have hspecial : Condition.isRegexSpecial c = true ↔ c ∈ regexMarks := decide_eq_true_iff
  exact if_congr hspecial rfl rfl

/-- The pattern of a search holds its keywords as they are written. -/
theorem TextFilter.keywordPattern_eq (search : TextFilter) :
    Condition.keywordPattern (Condition.trimmedKeywords search) = search.pattern := by
  -- To drop from the end is to drop from the beginning of the reversed text.
  have htrim : Text.trim = Text.stripped := rfl
  have hwords : Condition.trimmedKeywords search =
      (search.keywords.map Text.stripped).filter (· ≠ "") := by
    rw [← htrim]
    exact List.filter_congr fun keyword _ => Bool.eq_iff_iff.mpr (by simp)
  have hliteral : Condition.literalRegex = backslashed regexMarks := by
    funext text
    rw [Condition.literalRegex, backslashed, funext escapeRegex_eq]
  rw [Condition.keywordPattern, hwords, hliteral, pattern]

theorem pathTest_eq (uri : String) : Condition.pathTest uri = testText uri := by
  have hescape : ∀ c, Condition.escapePath c = if c ∈ ['\\', '"'] then ['\\', c] else [c] :=
    fun c => if_congr List.mem_pair.symm rfl rfl
  rw [Condition.pathTest, testText, backslashed, funext hescape]

/-- The path of a condition on properties holds their URIs as they are written. -/
theorem propertyTexts_eq (uris : NameSet) :
    propertyTexts uris = if uris.isEmpty then [] else [Condition.propertyPath uris] := by
  rw [propertyTexts, Condition.propertyPath, funext pathTest_eq]

theorem SortedSet.toList_of_isEmpty {α : Type} [LT α] {s : SortedSet α} (h : s.isEmpty = true) :
    s.toList = [] := List.isEmpty_iff.mp h

namespace Condition

variable {scope : List String} {e : Expr} {c : Condition}

theorem text_anyOf? {ps : List Predicate} (h : c ∈ anyOf? ps) :
    c.text = alternativesText (ps.map Predicate.text) := by
  match ps with
  | [] => cases h
  | [p] =>
    cases h
    rfl
  | p :: q :: others =>
    cases h
    rfl

/-! ## What is read -/

theorem reads_of {p : Predicate} (h : p.Reads scope) : (of p).Reads scope := by
  rw [of, Reads]
  exact ⟨h, by simp⟩

theorem reads_anyOf? {ps : List Predicate} (h : ∀ p ∈ ps, p.Reads scope) :
    ∀ c ∈ anyOf? ps, c.Reads scope := by
  intro c hc
  cases ps with
  | nil => cases hc
  | cons first others =>
    cases hc
    rw [Reads]
    exact List.forall_mem_cons.mp h

theorem reads_idTests (he : e.Reads scope) (ids : IdSet) : ∀ p ∈ idTests e ids, p.Reads scope := by
  intro p hp
  unfold idTests at hp
  split at hp
  · cases hp
  · rw [List.mem_singleton.mp hp]
    exact Predicate.reads_of_exprs_eq rfl he

theorem reads_isId (he : e.Reads scope) (id : Int64) : (isId e id).Reads scope :=
  reads_of (Predicate.reads_of_exprs_eq rfl he)

theorem reads_hasId (he : e.Reads scope) (ids : IdSet) : ∀ c ∈ hasId e ids, c.Reads scope :=
  reads_anyOf? (reads_idTests he ids)

theorem reads_hasFeature (he : e.Reads scope) (ids : IdSet) :
    ∀ c ∈ hasFeature e ids, c.Reads scope := by
  refine reads_anyOf? fun p hp => ?_
  rcases List.mem_append.mp hp with hp | hp
  · split at hp
    · rw [List.mem_singleton.mp hp]
      exact Predicate.reads_of_exprs_eq rfl he
    · cases hp
  · exact reads_idTests he _ p hp

theorem reads_hasName (he : e.Reads scope) (names : NameSet) :
    ∀ c ∈ hasName e names, c.Reads scope := by
  intro c hc
  unfold hasName at hc
  split at hc
  · cases hc
  · cases hc
    exact reads_of (Predicate.reads_of_exprs_eq rfl he)

theorem reads_hasUniqueId (he : e.Reads scope) (uids : NameSet) :
    ∀ c ∈ hasUniqueId e uids, c.Reads scope := by
  refine reads_anyOf? fun p hp => ?_
  obtain ⟨uid, -, rfl⟩ := List.mem_map.mp hp
  unfold uniqueIdTest
  split
  · exact Predicate.reads_of_exprs_eq rfl he
  · exact Predicate.reads_of_exprs_eq rfl he

theorem reads_hasProperty {document : Expr} (h : document.Reads scope) (uris : NameSet) :
    ∀ c ∈ hasProperty document uris, c.Reads scope := by
  intro c hc
  unfold hasProperty at hc
  split at hc
  · cases hc
  · cases hc
    exact reads_of (Predicate.reads_of_exprs_eq rfl h)

theorem mentions_eq_ok {exprs : List Expr} {search : TextFilter}
    (h : mentions exprs search = .ok c) : trimmedKeywords search ≠ [] ∧
      anyOf? (exprs.map fun e => .matchesRegex e (keywordPattern (trimmedKeywords search))) =
        some c := by
  simp only [mentions] at h
  split at h
  · cases h
  · rename_i hne
    split at h
    · rename_i d hd
      cases h
      exact ⟨hne, hd⟩
    · cases h

theorem reads_mentions {exprs : List Expr} (he : ∀ e ∈ exprs, e.Reads scope) {search : TextFilter}
    (h : mentions exprs search = .ok c) : c.Reads scope := by
  refine reads_anyOf? (fun p hp => ?_) c (mentions_eq_ok h).2
  obtain ⟨e, hmem, rfl⟩ := List.mem_map.mp hp
  exact Predicate.reads_of_exprs_eq rfl (he e hmem)

theorem isPlaced_eq_ok {geometry : Expr} {place : SpatialFilter}
    (h : isPlaced geometry place = .ok c) : Text.trim place.wkt ≠ "" ∧
      c = .of (.relatesTo geometry place.relation place.wkt place.srid) := by
  unfold isPlaced at h
  split at h
  · cases h
  · rename_i hne
    cases h
    exact ⟨hne, rfl⟩

theorem reads_isPlaced {geometry : Expr} (he : geometry.Reads scope) {place : SpatialFilter}
    (h : isPlaced geometry place = .ok c) : c.Reads scope := by
  rw [(isPlaced_eq_ok h).2]
  exact reads_of (Predicate.reads_of_exprs_eq rfl he)

/-! ## Which texts of the user are held -/

theorem userTexts_of (p : Predicate) : (of p).userTexts = p.userTexts := by
  rw [of, userTexts, List.flatMap_singleton]

theorem userTexts_anyOf? (ps : List Predicate) :
    (anyOf? ps).toList.flatMap userTexts = ps.flatMap Predicate.userTexts := by
  cases ps with
  | nil => rfl
  | cons first others => rw [anyOf?, Option.toList_some, List.flatMap_singleton, userTexts]

theorem userTexts_idTests (e : Expr) (ids : IdSet) :
    (idTests e ids).flatMap Predicate.userTexts = [] := by
  unfold idTests
  split
  · rfl
  · rfl

theorem userTexts_hasId (e : Expr) (ids : IdSet) :
    (hasId e ids).toList.flatMap userTexts = [] := by
  rw [hasId, userTexts_anyOf?, userTexts_idTests]

theorem userTexts_hasFeature (e : Expr) (ids : IdSet) :
    (hasFeature e ids).toList.flatMap userTexts = [] := by
  rw [hasFeature, userTexts_anyOf?, List.flatMap_append, userTexts_idTests, List.append_nil]
  split
  · rfl
  · rfl

theorem userTexts_hasName (e : Expr) (names : NameSet) :
    (hasName e names).toList.flatMap userTexts = names.toList := by
  unfold hasName
  split
  · rename_i hempty
    rw [SortedSet.toList_of_isEmpty hempty]
    rfl
  · rw [Option.toList_some, List.flatMap_singleton, userTexts_of, Predicate.userTexts]

theorem userTexts_uniqueIdTest (e : Expr) (uid : String) :
    (uniqueIdTest e uid).userTexts = [uidText uid] := by
  unfold uniqueIdTest likePattern?
  by_cases h : '*' ∈ uid.toList
  · rw [if_pos h]
    rfl
  · rw [if_neg h, uidText_eq_self h]
    rfl

theorem userTexts_hasUniqueId (e : Expr) (uids : NameSet) :
    (hasUniqueId e uids).toList.flatMap userTexts = uids.toList.map uidText := by
  rw [hasUniqueId, userTexts_anyOf?, List.flatMap_map, List.map_eq_flatMap]
  simp only [userTexts_uniqueIdTest]

theorem userTexts_hasProperty (document : Expr) (uris : NameSet) :
    (hasProperty document uris).toList.flatMap userTexts = propertyTexts uris := by
  rw [propertyTexts_eq]
  unfold hasProperty
  split
  · rfl
  · rw [Option.toList_some, List.flatMap_singleton, userTexts_of, Predicate.userTexts]

/-- The pattern of the keywords is held once for each text that is searched. -/
theorem userTexts_mentions {exprs : List Expr} {search : TextFilter}
    (h : mentions exprs search = .ok c) :
    c.userTexts = List.replicate exprs.length search.pattern := by
  rw [← search.keywordPattern_eq]
  have htexts := userTexts_anyOf?
    (exprs.map fun e => .matchesRegex e (keywordPattern (trimmedKeywords search)))
  rw [(mentions_eq_ok h).2, Option.toList_some, List.flatMap_singleton, List.flatMap_map] at htexts
  rw [htexts, ← List.map_const', List.map_eq_flatMap]
  rfl

theorem userTexts_isPlaced {geometry : Expr} {place : SpatialFilter}
    (h : isPlaced geometry place = .ok c) : c.userTexts = [place.wkt] := by
  rw [(isPlaced_eq_ok h).2, userTexts_of, Predicate.userTexts]

/-! ## When there is a condition -/

theorem mentions_isOk {exprs : List Expr} (hne : exprs ≠ []) (search : TextFilter) :
    (∃ c, mentions exprs search = .ok c) ↔ trimmedKeywords search ≠ [] := by
  constructor
  · rintro ⟨c, h⟩
    exact (mentions_eq_ok h).1
  · intro h
    obtain ⟨e, es, rfl⟩ := List.exists_cons_of_ne_nil hne
    simp [mentions, h, anyOf?]

theorem isPlaced_isOk (geometry : Expr) (place : SpatialFilter) :
    (∃ c, isPlaced geometry place = .ok c) ↔ Text.trim place.wkt ≠ "" := by
  constructor
  · rintro ⟨c, h⟩
    exact (isPlaced_eq_ok h).1
  · intro h
    exact ⟨_, if_neg h⟩

end Condition

end ObservationQuery
