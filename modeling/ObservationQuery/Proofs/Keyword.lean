import Mathlib.Computability.RegularExpressions
import Mathlib.Data.Bool.AllAny
import Mathlib.Data.List.TakeWhile
import ObservationQuery.Proofs.Condition
import ObservationQuery.Proofs.Sql.Reading

/-!
# Searching for keywords

A search for keywords is one regular expression: a group of alternatives, in which each character
with a meaning of its own is escaped.

* `Text.Trims` — a text without the blanks at its ends; `Text.Blank` — there is nothing else in it.
* `alternatives` — some words, escaped, with bars between them; `readAlternatives` — the words of
  which a group is made, as they were before they were escaped.
* `readRegex` — the regular expression that a pattern stands for; `FoundIn` — it matches somewhere
  in a text.
* `SpellsWords` — a pattern is a group of some words, and is found where one of them is.

Principal result: `mentions_words` — a search fails exactly if all keywords are blank; otherwise its
condition tests each expression against a pattern that spells the trimmed keywords.
-/

namespace ObservationQuery

/-! ## Trimmed texts -/

namespace Text

/-- `t` is `s` without the blanks at its ends. -/
structure Trims (s t : List Char) : Prop where
  blanks : ∃ front back, s = front ++ t ++ back ∧ ∀ c ∈ front ++ back, isBlank c = true
  head : ∀ c ∈ t.head?, isBlank c = false
  last : ∀ c ∈ t.getLast?, isBlank c = false

theorem head_trimStart (cs : List Char) : ∀ c ∈ (trimStart cs).head?, isBlank c = false := by
  intro c hc
  have hhead := List.head?_dropWhile_not isBlank cs
  rw [Option.mem_def, trimStart] at hc
  rw [hc] at hhead
  exact hhead

theorem exists_trimStart (cs : List Char) :
    ∃ front, cs = front ++ trimStart cs ∧ ∀ c ∈ front, isBlank c = true :=
  ⟨cs.takeWhile isBlank, List.takeWhile_append_dropWhile.symm, fun _ => List.mem_takeWhile_imp⟩

theorem trims_trim (s : String) : Trims s.toList (trim s).toList := by
  obtain ⟨front, hfront, hblank⟩ := exists_trimStart s.toList
  obtain ⟨back, hback, hblank'⟩ := exists_trimStart (trimStart s.toList).reverse
  have hreverse := congrArg List.reverse hback
  rw [List.reverse_reverse, List.reverse_append] at hreverse
  rw [trim, String.toList_ofList]
  refine ⟨⟨front, back.reverse, ?_, ?_⟩, ?_, ?_⟩
  · rw [List.append_assoc, ← hreverse, ← hfront]
  · intro c hc
    rcases List.mem_append.mp hc with hc | hc
    · exact hblank c hc
    · exact hblank' c (List.mem_reverse.mp hc)
  · -- What is left after the second cut begins like what is left after the first one.
    intro c hc
    apply head_trimStart s.toList
    rw [hreverse, List.head?_append, Option.mem_def.mp hc]
    rfl
  · intro c hc
    rw [List.getLast?_reverse] at hc
    exact head_trimStart _ c hc

theorem trimStart_append {front rest : List Char} (hfront : ∀ c ∈ front, isBlank c = true)
    (hrest : ∀ c ∈ rest.head?, isBlank c = false) : trimStart (front ++ rest) = rest := by
  rw [trimStart, List.dropWhile_append_of_pos hfront]
  cases rest with
  | nil => rfl
  | cons c cs => exact trimStart_cons (hrest c rfl) cs

/-- There is only one way to cut off the blanks. -/
theorem Trims.eq_trim {s : String} {t : List Char} (h : Trims s.toList t) :
    t = (trim s).toList := by
  obtain ⟨⟨front, back, hs, hblank⟩, hhead, hlast⟩ := h
  obtain ⟨hfront, hback⟩ := List.forall_mem_append.mp hblank
  rw [trim, String.toList_ofList, hs]
  cases t with
  | nil =>
    have hempty : trimStart (front ++ [] ++ back) = [] := by
      rw [List.append_nil, trimStart, List.dropWhile_eq_nil_iff]
      exact hblank
    rw [hempty]
    rfl
  | cons c cs =>
    rw [List.append_assoc, trimStart_append hfront (by simpa using hhead), List.reverse_append,
      trimStart_append (by simpa using hback) (by rwa [List.head?_reverse]), List.reverse_reverse]

/-- All characters of a text are blank. -/
def Blank (s : String) : Prop := ∀ c ∈ s.toList, isBlank c = true

instance (s : String) : Decidable (Blank s) :=
  decidable_of_iff (s.toList.all isBlank = true) List.all_eq_true

theorem trim_eq_empty_iff {s : String} : trim s = "" ↔ Blank s := by
  constructor
  · intro h c hc
    obtain ⟨⟨front, back, hs, hblank⟩, -, -⟩ := trims_trim s
    rw [h] at hs
    apply hblank
    simpa [hs] using hc
  · intro h
    have hempty : trimStart s.toList = [] := List.dropWhile_eq_nil_iff.mpr h
    rw [trim, hempty]
    rfl

end Text

/-! ## Alternatives -/

open Condition (escapeRegex literalRegex keywordPattern trimmedKeywords)

theorem ne_of_notMem_regexMarks {c : Char} (hc : c ∉ regexMarks) :
    ∀ mark ∈ regexMarks, c ≠ mark := by
  rintro mark hmark rfl
  exact hc hmark

theorem escapeRegex_cases (c : Char) :
    (c ∈ regexMarks ∧ escapeRegex c = ['\\', c]) ∨ (c ∉ regexMarks ∧ escapeRegex c = [c]) := by
  rw [escapeRegex_eq]
  by_cases h : c ∈ regexMarks
  · exact .inl ⟨h, if_pos h⟩
  · exact .inr ⟨h, if_neg h⟩

/-- Some words, each with its marks escaped, and bars between them. -/
def alternatives (words : List (List Char)) : List Char :=
  ['|'].intercalate (words.map (List.flatMap escapeRegex))

@[simp] theorem alternatives_singleton (word : List Char) :
    alternatives [word] = word.flatMap escapeRegex := by
  rw [alternatives, List.map_singleton, List.intercalate_singleton]

theorem alternatives_cons_cons (word next : List Char) (others : List (List Char)) :
    alternatives (word :: next :: others) =
      word.flatMap escapeRegex ++ '|' :: alternatives (next :: others) := by
  rw [alternatives, List.map_cons, List.map_cons, List.intercalate_cons_cons, ← List.map_cons,
    List.append_assoc, List.singleton_append]
  rfl

/-- The alternatives of the content of a group. They are separated by bars; a backslash takes the
next character as it is, and other marks must not occur. -/
def readAlternatives : List Char → Option (List (List Char))
  | [] => some [[]]
  | ['\\'] => none
  | '\\' :: c :: cs => (readAlternatives cs).map (List.modifyHead (c :: ·))
  | '|' :: cs => (readAlternatives cs).map ([] :: ·)
  | c :: cs =>
    if c ∈ regexMarks then none else (readAlternatives cs).map (List.modifyHead (c :: ·))

theorem readAlternatives_escapeRegex (c : Char) (rest : List Char) :
    readAlternatives (escapeRegex c ++ rest) =
      (readAlternatives rest).map (List.modifyHead (c :: ·)) := by
  obtain ⟨-, hescape⟩ | ⟨hc, hescape⟩ := escapeRegex_cases c
  · rw [hescape]
    rfl
  · have hne := ne_of_notMem_regexMarks hc
    rw [hescape, List.singleton_append, readAlternatives, if_neg hc]
    · exact fun heq _ => hne '\\' (by decide) heq
    · exact fun _ _ heq _ => hne '\\' (by decide) heq
    · exact hne '|' (by decide)

/-- Escaped characters belong to the alternative that is being read. -/
theorem readAlternatives_escaped {rest : List Char} {first : List Char}
    {others : List (List Char)} (hrest : readAlternatives rest = some (first :: others)) :
    ∀ word : List Char, readAlternatives (word.flatMap escapeRegex ++ rest) =
      some ((word ++ first) :: others)
  | [] => hrest
  | c :: word => by
    rw [List.flatMap_cons, List.append_assoc, readAlternatives_escapeRegex,
      readAlternatives_escaped hrest word]
    rfl

/-- Words are read back from their alternatives. -/
theorem readAlternatives_alternatives : ∀ {words : List (List Char)}, words ≠ [] →
    readAlternatives (alternatives words) = some words
  | [word], _ => by
    have hempty : readAlternatives [] = some [[]] := rfl
    have hread := readAlternatives_escaped hempty word
    rwa [List.append_nil, List.append_nil, ← alternatives_singleton] at hread
  | word :: next :: others, _ => by
    have hnext := readAlternatives_alternatives (List.cons_ne_nil next others)
    have hbar : readAlternatives ('|' :: alternatives (next :: others)) =
        some ([] :: next :: others) := by
      rw [readAlternatives, hnext]
      rfl
    rw [alternatives_cons_cons, readAlternatives_escaped hbar, List.append_nil]

/-! ## Regular expressions -/

/-- What has been read of a group: the alternatives before the last bar, and the one after it. -/
structure OpenGroup where
  ended : RegularExpression Char
  current : RegularExpression Char

namespace OpenGroup

variable {g : OpenGroup} {words : List (List Char)} {word : List Char}

/-- A group of which nothing has been read. -/
def empty : OpenGroup := ⟨0, 1⟩

/-- The group, if it ends here. -/
def regex (g : OpenGroup) : RegularExpression Char := g.ended + g.current

/-- The group with one more piece at its end. -/
def follow (g : OpenGroup) (r : RegularExpression Char) : OpenGroup := ⟨g.ended, g.current * r⟩

/-- The group after a bar. -/
def bar (g : OpenGroup) : OpenGroup := ⟨g.regex, 1⟩

/-- The alternatives before the last bar are some words, and the one after it is `word`. -/
structure Spells (g : OpenGroup) (words : List (List Char)) (word : List Char) : Prop where
  ended : ∀ v, v ∈ g.ended.matches' ↔ v ∈ words
  current : ∀ v, v ∈ g.current.matches' ↔ v = word

theorem spells_empty : empty.Spells [] [] where
  ended v := by
    rw [empty, RegularExpression.matches'_zero, List.mem_nil_iff]
    exact iff_of_false (Language.notMem_zero v) id
  current v := by
    rw [empty, RegularExpression.matches'_epsilon, Language.mem_one]

theorem Spells.follow_char (h : g.Spells words word) (c : Char) :
    (g.follow (.char c)).Spells words (word ++ [c]) where
  ended := h.ended
  current v := by
    rw [follow, RegularExpression.matches'_mul, RegularExpression.matches'_char, Language.mem_mul]
    constructor
    · rintro ⟨w, hw, _, rfl, rfl⟩
      rw [(h.current w).mp hw]
    · rintro rfl
      exact ⟨word, (h.current word).mpr rfl, [c], rfl, rfl⟩

theorem Spells.regex (h : g.Spells words word) (v : List Char) :
    v ∈ g.regex.matches' ↔ v ∈ words ++ [word] := by
  rw [OpenGroup.regex, RegularExpression.matches'_add, Language.mem_add, h.ended, h.current,
    List.mem_append, List.mem_singleton]

theorem Spells.bar (h : g.Spells words word) : g.bar.Spells (words ++ [word]) [] where
  ended := h.regex
  current := spells_empty.current

end OpenGroup

/-- The rest of a regular expression, after the beginnings of a group and of those around it. A
backslash takes the next character as it is, unless that is a letter or a digit; the marks that
are no parenthesis, bar or backslash are not read. -/
def readRegexFrom : OpenGroup → List OpenGroup → List Char → Option (RegularExpression Char)
  | g, [], [] => some g.regex
  | _, _ :: _, [] => none
  | g, outer, '(' :: cs => readRegexFrom .empty (g :: outer) cs
  | g, around :: outer, ')' :: cs => readRegexFrom (around.follow g.regex) outer cs
  | g, outer, '|' :: cs => readRegexFrom g.bar outer cs
  | g, outer, '\\' :: c :: cs =>
    if c.isAlphanum then none else readRegexFrom (g.follow (.char c)) outer cs
  | g, outer, c :: cs =>
    if c ∈ regexMarks then none else readRegexFrom (g.follow (.char c)) outer cs

/-- The regular expression that a pattern stands for. -/
def readRegex (pattern : String) : Option (RegularExpression Char) :=
  readRegexFrom .empty [] pattern.toList

/-- A regular expression matches a part of a text, where `fold` makes characters equal that differ
in case only. -/
def FoundIn (fold : Char → Char) (r : RegularExpression Char) (text : List Char) : Prop :=
  ∃ part ∈ (r.map fold).matches', part <:+: text.map fold

theorem foundIn_iff {fold : Char → Char} {r : RegularExpression Char} {text : List Char} :
    FoundIn fold r text ↔ ∃ word ∈ r.matches', word.map fold <:+: text.map fold := by
  rw [FoundIn, RegularExpression.matches'_map]
  exact Set.exists_mem_image

section Reading

variable {words before : List (List Char)}

theorem readRegexFrom_escapeRegex (g : OpenGroup) (outer : List OpenGroup) (c : Char)
    (rest : List Char) : readRegexFrom g outer (escapeRegex c ++ rest) =
      readRegexFrom (g.follow (.char c)) outer rest := by
  obtain ⟨hc, hescape⟩ | ⟨hc, hescape⟩ := escapeRegex_cases c
  · have halnum : c.isAlphanum = false := by
      have hmarks : ∀ mark ∈ regexMarks, mark.isAlphanum = false :=
        List.all_iff_forall_prop.mp (by decide)
      exact hmarks c hc
    rw [hescape, List.cons_append, List.singleton_append, readRegexFrom, halnum]
    rfl
  · have hne := ne_of_notMem_regexMarks hc
    rw [hescape, List.singleton_append, readRegexFrom, if_neg hc]
    · exact hne '(' (by decide)
    · exact hne '|' (by decide)
    · exact fun _ _ heq _ => hne '\\' (by decide) heq
    · exact fun _ _ _ => hne ')' (by decide)

/-- Escaped characters follow in the alternative that is being read. -/
theorem readRegexFrom_escaped (outer : List OpenGroup) (rest : List Char) :
    ∀ (word : List Char) {g : OpenGroup} {front : List Char}, g.Spells before front →
      ∃ g' : OpenGroup, g'.Spells before (front ++ word) ∧
        readRegexFrom g outer (word.flatMap escapeRegex ++ rest) = readRegexFrom g' outer rest
  | [], g, front, h => ⟨g, by rwa [List.append_nil], rfl⟩
  | c :: word, g, front, h => by
    obtain ⟨g', hspells, hread⟩ := readRegexFrom_escaped outer rest word (h.follow_char c)
    rw [List.append_assoc, List.singleton_append] at hspells
    refine ⟨g', hspells, ?_⟩
    rw [List.flatMap_cons, List.append_assoc, readRegexFrom_escapeRegex, hread]

/-- A group that has just begun, or has just been continued by a bar, takes up the words that
follow. -/
theorem readRegexFrom_alternatives (outer : List OpenGroup) (rest : List Char) :
    ∀ {words before : List (List Char)} {g : OpenGroup}, words ≠ [] → g.Spells before [] →
      ∃ g' : OpenGroup, (∀ v, v ∈ g'.regex.matches' ↔ v ∈ before ++ words) ∧
        readRegexFrom g outer (alternatives words ++ rest) = readRegexFrom g' outer rest
  | [word], before, g, _, h => by
    obtain ⟨g', hspells, hread⟩ := readRegexFrom_escaped outer rest word h
    exact ⟨g', hspells.regex, by rw [alternatives_singleton, hread]⟩
  | word :: next :: others, before, g, _, h => by
    obtain ⟨g₁, hspells₁, hread₁⟩ :=
      readRegexFrom_escaped outer ('|' :: (alternatives (next :: others) ++ rest)) word h
    obtain ⟨g₂, hregex₂, hread₂⟩ := readRegexFrom_alternatives outer rest
      (List.cons_ne_nil next others) hspells₁.bar
    rw [List.append_assoc, List.singleton_append] at hregex₂
    refine ⟨g₂, hregex₂, ?_⟩
    rw [alternatives_cons_cons, List.append_assoc, List.cons_append, hread₁, readRegexFrom, hread₂]

/-- A group of alternatives matches the words of which it is made, and no others. -/
theorem readRegex_group (h : words ≠ []) {pattern : String}
    (hpattern : pattern.toList = '(' :: (alternatives words ++ [')'])) :
    ∃ r, readRegex pattern = some r ∧ ∀ v, v ∈ r.matches' ↔ v ∈ words := by
  obtain ⟨g, hregex, hread⟩ :=
    readRegexFrom_alternatives [.empty] [')'] h OpenGroup.spells_empty
  refine ⟨(OpenGroup.empty.follow g.regex).regex, ?_, fun v => ?_⟩
  · rw [readRegex, hpattern, readRegexFrom, hread, readRegexFrom, readRegexFrom]
  · rw [← List.nil_append words, ← hregex v]
    simp [OpenGroup.regex, OpenGroup.follow, OpenGroup.empty]

end Reading

/-! ## Searches -/

/-- A pattern is one group, whose alternatives are some words with their marks escaped, and is found
in the texts in which one of them occurs. -/
structure SpellsWords (fold : Char → Char) (words : List (List Char)) (pattern : String) :
    Prop where
  group : ∃ content, pattern.toList = '(' :: (content ++ [')']) ∧
    readAlternatives content = some words
  found : ∃ r, readRegex pattern = some r ∧ ∀ text : List Char,
    FoundIn fold r text ↔ ∃ word ∈ words, word.map fold <:+: text.map fold

theorem toList_keywordPattern (keywords : List String) :
    (keywordPattern keywords).toList =
      '(' :: (alternatives (keywords.map String.toList) ++ [')']) := by
  have hwords : (keywords.map literalRegex).map String.toList =
      (keywords.map String.toList).map (List.flatMap escapeRegex) := by
    rw [List.map_map, List.map_map]
    refine List.map_congr_left fun keyword _ => ?_
    exact String.toList_ofList
  rw [keywordPattern, String.toList_append, String.toList_append, String.toList_intercalate, hwords]
  rfl

theorem spellsWords_keywordPattern (fold : Char → Char) {keywords : List String}
    (h : keywords ≠ []) :
    SpellsWords fold (keywords.map String.toList) (keywordPattern keywords) := by
  have hne : keywords.map String.toList ≠ [] := mt List.map_eq_nil_iff.mp h
  obtain ⟨r, hread, hmatches⟩ := readRegex_group hne (toList_keywordPattern keywords)
  refine ⟨⟨_, toList_keywordPattern keywords, readAlternatives_alternatives hne⟩, r, hread, ?_⟩
  intro text
  rw [foundIn_iff]
  simp only [hmatches]

/-- The keywords that are not blank. -/
def usableKeywords (search : TextFilter) : List String :=
  search.keywords.filter fun keyword => ¬ Text.Blank keyword

theorem trimmedKeywords_eq (search : TextFilter) :
    trimmedKeywords search = (usableKeywords search).map Text.trim := by
  rw [trimmedKeywords, usableKeywords, List.filter_map]
  congr 1
  refine List.filter_congr fun keyword _ => Bool.eq_iff_iff.mpr ?_
  simp [Text.trim_eq_empty_iff]

/-- **A search of some texts fails exactly if all keywords are blank. Otherwise its condition tests
each of the texts, whatever the case, against one pattern: it spells the keywords that are not blank
in their order, without the blanks around them, and none of these words is empty.** -/
theorem mentions_words {exprs : List Expr} (hexprs : exprs ≠ []) (search : TextFilter)
    (fold : Char → Char) :
    ((∀ keyword ∈ search.keywords, Text.Blank keyword) →
      Condition.mentions exprs search = .error (.invalidFilter .noKeywords)) ∧
    ((∃ keyword ∈ search.keywords, ¬ Text.Blank keyword) →
      ∃ c literal pattern words, Condition.mentions exprs search = .ok c ∧
        c.text = alternativesText (exprs.map fun e => "(" ++ e.text ++ ") ~* " ++ literal) ∧
        Sql.readLiteral literal.toList = some (pattern, []) ∧ SpellsWords fold words pattern ∧
        List.Forall₂ (fun keyword word => Text.Trims keyword.toList word)
          (usableKeywords search) words ∧ [] ∉ words) := by
  refine ⟨fun hblank => ?_, fun hsome => ?_⟩
  · have hnone : trimmedKeywords search = [] := by
      rw [trimmedKeywords_eq, List.map_eq_nil_iff, usableKeywords, List.filter_eq_nil_iff]
      simpa using hblank
    rw [Condition.mentions, hnone]
    rfl
  · have hne : trimmedKeywords search ≠ [] := by
      rw [trimmedKeywords_eq, Ne, List.map_eq_nil_iff, usableKeywords, List.filter_eq_nil_iff]
      simpa using hsome
    obtain ⟨c, hc⟩ := (Condition.mentions_isOk hexprs search).mpr hne
    have htext := Condition.text_anyOf? (Condition.mentions_eq_ok hc).2
    rw [List.map_map] at htext
    refine ⟨c, _, _, _, hc, htext, Sql.readLiteral_quote_self _,
      spellsWords_keywordPattern fold hne, ?_, ?_⟩
    · rw [trimmedKeywords_eq, List.map_map, List.forall₂_map_right_iff, List.forall₂_same]
      exact fun keyword _ => Text.trims_trim keyword
    · simp [trimmedKeywords]

/-- A search for `c++` and for `a|b`, with blanks around it and a blank keyword between them, finds
texts with a `C++` in them; it does not take the bar for an alternative. -/
theorem mentions_words_marks :
    let exprs : List Expr := [.documentText "systems" [.member "name"],
      .documentText "systems" [.member "description"]]
    ∃ c literal pattern r, Condition.mentions exprs ⟨["c++", "  ", " a|b "]⟩ = .ok c ∧
      c.text = alternativesText (exprs.map fun e => "(" ++ e.text ++ ") ~* " ++ literal) ∧
      Sql.readLiteral literal.toList = some (pattern, []) ∧ readRegex pattern = some r ∧
      FoundIn Char.toLower r "in C++".toList ∧ ¬ FoundIn Char.toLower r "b or a".toList := by
  intro exprs
  let search : TextFilter := ⟨["c++", "  ", " a|b "]⟩
  have hexprs : exprs ≠ [] := List.cons_ne_nil _ _
  obtain ⟨c, literal, pattern, words, hc, htext, hliteral, hspells, htrims, -⟩ :=
    (mentions_words hexprs search Char.toLower).2 ⟨"c++", by decide, by decide⟩
  have hwords : words = ["c++".toList, "a|b".toList] := by
    have husable : usableKeywords search = ["c++", " a|b "] := by decide
    rw [husable] at htrims
    obtain ⟨first, _, hfirst, hothers, rfl⟩ := List.forall₂_cons_left_iff.mp htrims
    obtain ⟨second, _, hsecond, hnone, rfl⟩ := List.forall₂_cons_left_iff.mp hothers
    obtain rfl := List.forall₂_nil_left_iff.mp hnone
    rw [hfirst.eq_trim, hsecond.eq_trim]
    decide
  obtain ⟨r, hread, hfound⟩ := hspells.found
  refine ⟨c, literal, pattern, r, hc, htext, hliteral, hread, ?_, ?_⟩
  · rw [hfound, hwords]
    exact ⟨"c++".toList, by decide, by decide⟩
  · rw [hfound, hwords]
    decide

end ObservationQuery
