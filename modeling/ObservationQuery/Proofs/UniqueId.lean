import Mathlib.Data.Bool.AllAny
import Mathlib.Data.List.Forall2
import ObservationQuery.Proofs.Condition
import ObservationQuery.Proofs.Sql.Reading

/-!
# Unique identifiers with wildcards

A unique identifier with a wildcard is compared by `ILIKE`, whose patterns have marks of their own:
`%` stands for any text, `_` for any character, and a backslash for the character after it. These
are not escaped, so a unique identifier that has one of them is not read as it is meant.

* `PatternPart`, `Matches` — the parts of a pattern, and the texts that match them.
* `wildcards` — a unique identifier as it is meant: `*` stands for any text.
* `readLike` — a pattern as it is read.
* `TextTest`, `readTextTest` — the test of a text that is written.

Principal result: `holds_hasUniqueId` — each unique identifier has a test; without a wildcard it is
that of equality, with one it holds of the texts that are meant exactly if the unique identifier has
no mark.
-/

namespace ObservationQuery

open Sql

/-! ## Patterns -/

/-- A part of a pattern. -/
inductive PatternPart where
  /-- Any characters, or none. -/
  | anyText
  /-- Any character. -/
  | anyChar
  /-- One character. -/
  | char (c : Char)
  deriving DecidableEq, Repr

/-- A text matches the parts of a pattern one after another. Characters are alike if `fold` makes
them the same, as a mapping to lower case does. -/
def Matches (fold : Char → Char) : List PatternPart → List Char → Prop
  | [], cs => cs = []
  | .anyText :: parts, cs => ∃ front rest, cs = front ++ rest ∧ Matches fold parts rest
  | .anyChar :: parts, cs => ∃ c rest, cs = c :: rest ∧ Matches fold parts rest
  | .char c :: parts, cs => ∃ d rest, cs = d :: rest ∧ fold d = fold c ∧ Matches fold parts rest

/-- A unique identifier as it is meant. -/
def wildcards (uid : String) : List PatternPart :=
  uid.toList.map fun c => if c = '*' then .anyText else .char c

/-- What a character of a pattern of `LIKE` stands for. -/
def likePart (c : Char) : PatternPart :=
  if c = '%' then .anyText else if c = '_' then .anyChar else .char c

/-- The parts of a pattern of `LIKE`. A backslash takes the next character as it is, so it must not
be the last. -/
def readLike : List Char → Option (List PatternPart)
  | [] => some []
  | ['\\'] => none
  | '\\' :: c :: cs => (readLike cs).map (.char c :: ·)
  | c :: cs => (readLike cs).map (likePart c :: ·)

/-- The characters that a pattern of `LIKE` does not take as they are. -/
def likeMarks : List Char := ['%', '_', '\\']

/-- No other character is like one of the marks. -/
def KeepsMarks (fold : Char → Char) : Prop := ∀ mark ∈ likeMarks, ∀ c, fold c = fold mark → c = mark

/-- The mapping of capital letters to small ones keeps the marks apart. -/
theorem keepsMarks_toLower : KeepsMarks Char.toLower := by
  intro mark hmark c h
  have hself : ∀ mark ∈ likeMarks, mark.toLower = mark ∧
      ¬ (97 ≤ mark.val.toNat ∧ mark.val.toNat ≤ 122) :=
    List.all_iff_forall_prop.mp (by decide)
  obtain ⟨hmark, hletter⟩ := hself mark hmark
  rw [hmark] at h
  unfold Char.toLower at h
  split at h
  · -- A capital letter is mapped to a small one, and no mark is one.
    rename_i hupper
    have hfirst : 65 ≤ c.val.toNat := UInt32.le_iff_toNat_le.mp hupper.1
    have hlast : c.val.toNat ≤ 90 := UInt32.le_iff_toNat_le.mp hupper.2
    have hshift : ('a'.val - 'A'.val).toNat = 32 := rfl
    have hval : mark.val.toNat = c.val.toNat + 32 := by
      rw [← h, UInt32.toNat_add, hshift]
      omega
    omega
  · exact h

/-- A text that matches: nothing for any text, and a letter for any character. -/
def sample : List PatternPart → List Char
  | [] => []
  | .anyText :: parts => sample parts
  | .anyChar :: parts => 'x' :: sample parts
  | .char c :: parts => c :: sample parts

section
variable {fold : Char → Char}

theorem matches_sample (fold : Char → Char) : ∀ parts, Matches fold parts (sample parts)
  | [] => rfl
  | .anyText :: parts => ⟨[], _, rfl, matches_sample fold parts⟩
  | .anyChar :: parts => ⟨'x', _, rfl, matches_sample fold parts⟩
  | .char c :: parts => ⟨c, _, rfl, rfl, matches_sample fold parts⟩

/-- A text has each character that a pattern names as often as the pattern. -/
theorem count_le_of_matches {mark : Char} (hmark : ∀ c, fold c = fold mark → c = mark) :
    ∀ {parts : List PatternPart} {cs : List Char}, Matches fold parts cs →
      parts.count (.char mark) ≤ cs.count mark
  | [], cs, _ => by simp
  | .anyText :: parts, cs, ⟨front, rest, hcs, h⟩ => by
    have ih := count_le_of_matches hmark h
    rw [hcs, List.count_append, List.count_cons_of_ne (by simp)]
    omega
  | .anyChar :: parts, cs, ⟨c, rest, hcs, h⟩ => by
    have ih := count_le_of_matches hmark h
    rw [hcs, List.count_cons_of_ne (by simp)]
    exact ih.trans List.count_le_count_cons
  | .char c :: parts, cs, ⟨d, rest, hcs, hd, h⟩ => by
    have ih := count_le_of_matches hmark h
    rw [hcs]
    by_cases hc : c = mark
    · subst hc
      rw [hmark d hd, List.count_cons_self, List.count_cons_self]
      omega
    · rw [List.count_cons_of_ne (by simpa using hc)]
      exact ih.trans List.count_le_count_cons

theorem count_sample {mark : Char} (hx : mark ≠ 'x') (parts : List PatternPart) :
    (sample parts).count mark = parts.count (.char mark) := by
  induction parts with
  | nil => rfl
  | cons part parts ih =>
    cases part with
    | anyText => simpa [sample] using ih
    | anyChar => simpa [sample, hx.symm] using ih
    | char c => simp [sample, List.count_cons, ih]

theorem count_wildcards {mark : Char} (hstar : mark ≠ '*') (uid : String) :
    (wildcards uid).count (.char mark) = uid.toList.count mark := by
  rw [wildcards]
  induction uid.toList with
  | nil => rfl
  | cons c cs ih =>
    rw [List.map_cons, List.count_cons, List.count_cons, ih]
    by_cases hc : c = '*'
    · simp [hc, hstar.symm]
    · simp [hc]

end

/-! ## Patterns of `LIKE` -/

/-- Without a backslash each character is a part. -/
theorem readLike_eq_map : ∀ {cs : List Char}, '\\' ∉ cs → readLike cs = some (cs.map likePart)
  | [], _ => rfl
  | c :: cs, h => by
    obtain ⟨hc, hcs⟩ := not_or.mp (mt List.mem_cons.mpr h)
    rw [readLike, readLike_eq_map hcs]
    · rfl
    · exact fun heq _ => hc heq.symm
    · exact fun _ _ heq _ => hc heq.symm

/-- No part is the mark of any text or that of any character. -/
theorem count_map_likePart {mark : Char} (hmark : mark = '%' ∨ mark = '_') (cs : List Char) :
    (cs.map likePart).count (.char mark) = 0 := by
  rw [List.count_eq_zero, List.mem_map]
  rintro ⟨c, -, hc⟩
  unfold likePart at hc
  grind

/-- There is at most one backslash in the parts for two in the pattern. -/
theorem count_readLike : ∀ {cs : List Char} {parts : List PatternPart}, readLike cs = some parts →
    2 * parts.count (.char '\\') ≤ cs.count '\\' := by
  intro cs
  fun_induction readLike cs with
  | case1 => simp
  | case2 => simp
  | case3 c cs ih =>
    intro parts h
    obtain ⟨others, hothers, rfl⟩ := Option.map_eq_some_iff.mp h
    have := ih hothers
    simp only [List.count_cons]
    grind
  | case4 c cs hlast hescape ih =>
    intro parts h
    obtain ⟨others, hothers, rfl⟩ := Option.map_eq_some_iff.mp h
    have hc : c ≠ '\\' := by
      rintro rfl
      cases cs with
      | nil => exact hlast rfl rfl
      | cons d cs => exact hescape d cs rfl rfl
    have hpart : likePart c ≠ .char '\\' := by
      unfold likePart
      grind
    rw [List.count_cons_of_ne hpart, List.count_cons_of_ne hc]
    exact ih hothers

/-! ## Tests of texts -/

/-- A test of a text. -/
inductive TextTest where
  /-- The text is a value. -/
  | isText (value : String)
  /-- The text matches a pattern of `LIKE`, whatever the case. -/
  | isLike (pattern : String)
  deriving DecidableEq, Repr

/-- A stored text passes a test. A pattern that cannot be read is an error, so that none does. -/
def TextTest.Holds (fold : Char → Char) (stored : String) : TextTest → Prop
  | isText value => stored = value
  | isLike pattern =>
    ∃ parts, readLike pattern.toList = some parts ∧ Matches fold parts stored.toList

namespace Sql

/-- The test of the value of `e` that is written. -/
def readTextTest (e : Expr) (text : String) : Option TextTest := do
  let cs ← after? e.text text.toList
  match after? " = " cs, after? " ILIKE " cs with
  | some cs, _ => do
    let (value, cs) ← readLiteral cs
    if cs.isEmpty then some (.isText value) else none
  | none, some cs => do
    let (pattern, cs) ← readLiteral cs
    if cs.isEmpty then some (.isLike pattern) else none
  | none, none => none

theorem readTextTest_isText (e : Expr) (value : String) :
    readTextTest e (Predicate.isText e value).text = some (.isText value) := by
  unfold Predicate.text
  rw [readTextTest, String.toList_append, String.toList_append, List.append_assoc]
  simp only [after?_append, bind, Option.bind_some, readLiteral_quote_self]
  rfl

theorem readTextTest_isLike (e : Expr) (pattern : String) :
    readTextTest e (Predicate.isLike e pattern).text = some (.isLike pattern) := by
  have hno : after? " = " (" ILIKE ".toList ++ (quote pattern).toList) = none :=
    after?_eq_none (by simp)
  unfold Predicate.text
  rw [readTextTest, String.toList_append, String.toList_append, List.append_assoc]
  simp only [after?_append, bind, Option.bind_some, hno, readLiteral_quote_self]
  rfl

end Sql

/-! ## Unique identifiers -/

section
variable {fold : Char → Char} {uid : String}

theorem count_uidText (uid : String) :
    (uidText uid).toList.count '\\' = uid.toList.count '\\' := by
  rw [uidText, String.toList_ofList]
  induction uid.toList with
  | nil => rfl
  | cons c cs ih =>
    rw [List.map_cons, List.count_cons, List.count_cons, ih]
    by_cases hc : c = '*'
    · simp [hc]
    · simp [hc]

theorem backslash_notMem_uidText : '\\' ∉ (uidText uid).toList ↔ '\\' ∉ uid.toList := by
  rw [← List.count_eq_zero, count_uidText, List.count_eq_zero]

theorem uniqueIdTest_of_mem (e : Expr) (h : '*' ∈ uid.toList) :
    Condition.uniqueIdTest e uid = .isLike e (uidText uid) := by
  rw [Condition.uniqueIdTest, Condition.likePattern?, if_pos h]
  rfl

theorem uniqueIdTest_of_notMem (e : Expr) (h : '*' ∉ uid.toList) :
    Condition.uniqueIdTest e uid = .isText e uid := by
  rw [Condition.uniqueIdTest, Condition.likePattern?, if_neg h]

/-- A unique identifier without marks is read as it is meant. -/
theorem readLike_uidText (h : ∀ mark ∈ likeMarks, mark ∉ uid.toList) :
    readLike (uidText uid).toList = some (wildcards uid) := by
  have hslash : '\\' ∉ (uidText uid).toList :=
    backslash_notMem_uidText.mpr (h '\\' (by decide))
  rw [readLike_eq_map hslash, uidText, String.toList_ofList, List.map_map, wildcards]
  refine congrArg some (List.map_congr_left fun c hc => ?_)
  have hmarks : c ≠ '%' ∧ c ≠ '_' := by
    constructor
    · rintro rfl
      exact h '%' (by decide) hc
    · rintro rfl
      exact h '_' (by decide) hc
  by_cases hstar : c = '*'
  · simp [hstar, likePart]
  · simp [hstar, likePart, hmarks]

/-- A unique identifier that is read as it is meant can be read: what is meant has a sample. The
sample of what is read is meant, too. -/
theorem exists_sample_of_holds (h : ∀ stored, (TextTest.isLike (uidText uid)).Holds fold stored ↔
    Matches fold (wildcards uid) stored.toList) :
    ∃ parts, readLike (uidText uid).toList = some parts ∧
      Matches fold (wildcards uid) (sample parts) := by
  have hmeant := (h (String.ofList (sample (wildcards uid)))).mpr
  rw [String.toList_ofList] at hmeant
  obtain ⟨parts, hparts, -⟩ := hmeant (matches_sample fold _)
  have hread := (h (String.ofList (sample parts))).mp
  rw [TextTest.Holds, String.toList_ofList] at hread
  exact ⟨parts, hparts, hread ⟨parts, hparts, matches_sample fold parts⟩⟩

/-- A unique identifier that is read as it is meant has no marks. -/
theorem notMem_of_holds (hfold : KeepsMarks fold)
    (h : ∀ stored, (TextTest.isLike (uidText uid)).Holds fold stored ↔
      Matches fold (wildcards uid) stored.toList) : ∀ mark ∈ likeMarks, mark ∉ uid.toList := by
  obtain ⟨parts, hparts, hsample⟩ := exists_sample_of_holds h
  -- The sample has each mark of the unique identifier, but no more of them than are read.
  have hcount : ∀ mark ∈ likeMarks, uid.toList.count mark ≤ parts.count (.char mark) := by
    intro mark hmark
    have hne : ∀ mark ∈ likeMarks, mark ≠ '*' ∧ mark ≠ 'x' :=
      List.all_iff_forall_prop.mp (by decide)
    have hle := count_le_of_matches (hfold mark hmark) hsample
    rwa [count_wildcards (hne mark hmark).1, count_sample (hne mark hmark).2] at hle
  have hslash : '\\' ∉ uid.toList := by
    have hle := hcount '\\' (by decide)
    have hread := count_readLike hparts
    rw [count_uidText] at hread
    apply List.count_eq_zero.mp
    omega
  have hmap : (uidText uid).toList.map likePart = parts :=
    Option.some.inj ((readLike_eq_map (backslash_notMem_uidText.mpr hslash)).symm.trans hparts)
  have hother : ∀ mark, mark = '%' ∨ mark = '_' → mark ∈ likeMarks → mark ∉ uid.toList := by
    intro mark hmark hmem
    have hle := hcount mark hmem
    rw [← hmap, count_map_likePart hmark] at hle
    exact List.count_eq_zero.mp (Nat.le_zero.mp hle)
  intro mark hmark
  rcases List.mem_cons.mp hmark with rfl | hrest
  · exact hother _ (.inl rfl) hmark
  rcases List.mem_cons.mp hrest with rfl | hrest
  · exact hother _ (.inr rfl) hmark
  · rw [List.mem_singleton.mp hrest]
    exact hslash

theorem holds_isLike_iff (hfold : KeepsMarks fold) :
    (∀ stored, (TextTest.isLike (uidText uid)).Holds fold stored ↔
      Matches fold (wildcards uid) stored.toList) ↔ ∀ mark ∈ likeMarks, mark ∉ uid.toList := by
  refine ⟨notMem_of_holds hfold, fun h stored => ?_⟩
  rw [TextTest.Holds, readLike_uidText h]
  simp

/-- **Each unique identifier has a test: without a wildcard that of equality, with one a pattern,
which holds of the texts that are meant exactly if the unique identifier has no mark of
patterns.** -/
theorem holds_hasUniqueId (hfold : KeepsMarks fold) {e : Expr} {uids : NameSet} {c : Condition}
    (h : c ∈ Condition.hasUniqueId e uids) :
    ∃ texts, c.text = alternativesText texts ∧ List.Forall₂ (fun uid text =>
      ∃ test, readTextTest e text = some test ∧
        ('*' ∉ uid.toList → ∀ stored, test.Holds fold stored ↔ stored = uid) ∧
        ('*' ∈ uid.toList →
          ((∀ stored, test.Holds fold stored ↔ Matches fold (wildcards uid) stored.toList) ↔
            ∀ mark ∈ likeMarks, mark ∉ uid.toList))) uids.toList texts := by
  refine ⟨_, Condition.text_anyOf? h, ?_⟩
  rw [List.map_map, List.forall₂_map_right_iff, List.forall₂_same]
  intro uid _
  show ∃ test, readTextTest e (Condition.uniqueIdTest e uid).text = some test ∧ _
  by_cases hstar : '*' ∈ uid.toList
  · rw [uniqueIdTest_of_mem e hstar]
    exact ⟨_, readTextTest_isLike e _, fun hno => absurd hstar hno,
      fun _ => holds_isLike_iff hfold⟩
  · rw [uniqueIdTest_of_notMem e hstar]
    exact ⟨_, readTextTest_isText e uid, fun _ stored => Iff.rfl, fun h => absurd h hstar⟩

end

/-- Of two unique identifiers the first has to be equal, and the second matches whatever the case
and whatever follows. -/
theorem holds_hasUniqueId_two :
    let e : Expr := .documentText "systems" [.member "properties", .member "uid"]
    let uids : NameSet := .ofList ["urn:b:*", "urn:a"]
    ∃ c ∈ Condition.hasUniqueId e uids, ∃ first second test pattern,
      c.text = alternativesText [first, second] ∧
      readTextTest e first = some test ∧ test.Holds Char.toLower "urn:a" ∧
      readTextTest e second = some pattern ∧ pattern.Holds Char.toLower "URN:B:7" := by
  intro e uids
  have huids : uids.toList = ["urn:a", "urn:b:*"] := by decide
  obtain ⟨c, hc⟩ : ∃ c, Condition.hasUniqueId e uids = some c := by
    rw [Condition.hasUniqueId, huids]
    exact ⟨_, rfl⟩
  obtain ⟨texts, htext, htests⟩ := holds_hasUniqueId keepsMarks_toLower hc
  rw [huids] at htests
  obtain ⟨first, _, hfirst, hothers, rfl⟩ := List.forall₂_cons_left_iff.mp htests
  obtain ⟨second, _, hsecond, hnone, rfl⟩ := List.forall₂_cons_left_iff.mp hothers
  obtain rfl := List.forall₂_nil_left_iff.mp hnone
  obtain ⟨test, hread, hequal, -⟩ := hfirst
  obtain ⟨pattern, hreadPattern, -, hlike⟩ := hsecond
  have hmarks : ∀ mark ∈ likeMarks, mark ∉ "urn:b:*".toList :=
    List.all_iff_forall_prop.mp (by decide)
  refine ⟨c, hc, first, second, test, pattern, htext, hread, (hequal (by decide) _).mpr rfl,
    hreadPattern, ((hlike (by decide)).mpr hmarks "URN:B:7").mpr ?_⟩
  refine ⟨'U', _, rfl, by decide, 'R', _, rfl, by decide, 'N', _, rfl, by decide, ':', _, rfl, rfl,
    'B', _, rfl, by decide, ':', _, rfl, rfl, ['7'], [], rfl, rfl⟩

/-- An underscore is read as any character: a unique identifier matches a text with another
character in its place. -/
theorem holds_hasUniqueId_underscore :
    let e : Expr := .documentText "systems" [.member "properties", .member "uid"]
    let uid := "urn:osh:sensor_1:*"
    ∃ c ∈ Condition.hasUniqueId e (.singleton uid), ∃ test, readTextTest e c.text = some test ∧
      test.Holds Char.toLower "urn:osh:sensorx1:" ∧
      ¬ Matches Char.toLower (wildcards uid) "urn:osh:sensorx1:".toList := by
  intro e uid
  have hc : Condition.hasUniqueId e (.singleton uid) = some (.of (.isLike e (uidText uid))) := by
    rw [Condition.hasUniqueId, SortedSet.toList_singleton, List.map_singleton,
      uniqueIdTest_of_mem e (by decide)]
    rfl
  refine ⟨_, hc, _, readTextTest_isLike e _, ?_, fun h => ?_⟩
  · let parts := (uidText uid).toList.map likePart
    have hsample : sample parts = "urn:osh:sensorx1:".toList := by decide
    refine ⟨parts, readLike_eq_map (by decide), ?_⟩
    rw [← hsample]
    exact matches_sample _ parts
  · have hle := count_le_of_matches (keepsMarks_toLower '_' (by decide)) h
    revert hle
    decide

end ObservationQuery
