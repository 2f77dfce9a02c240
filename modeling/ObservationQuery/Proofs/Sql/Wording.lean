import ObservationQuery.Proofs.Sql.Scope
import ObservationQuery.Proofs.Sql.Spelling

/-!
# How the parts of a scoped query are worded

* `isPlain` — the characters of names and numerals.

Principal results: `Predicate.Reads.phrase`, `Condition.Reads.phrase` — predicates and conditions
on tables that have table names are phrases; `Query.Scoped.passage`, `Query.Scoped.count_passage` —
both texts of a scoped query are passages.
-/

namespace ObservationQuery

open Sql

/-! ## Words -/

/-- The characters of names and numerals. -/
def isPlain (c : Char) : Bool := c.isAlphanum || c == '_' || c == '.'

theorem ne_of_isPlain {c d : Char} (hc : isPlain c = true) (hd : isPlain d = false) : c ≠ d := by
  rintro rfl
  rw [hc] at hd
  cases hd

theorem isPlain_of_isDigit {c : Char} (h : c.isDigit = true) : isPlain c = true := by
  simp [isPlain, Char.isAlphanum, h]

theorem isMark_of_isPlain {c : Char} (h : isPlain c = true) : isMark c = false := by
  have hmarks : ∀ d ∈ ['\'', '"', '\\', ';', '/'], isPlain d = false := by simp [isPlain]
  rw [isMark, decide_eq_false_iff_not]
  intro hmem
  exact ne_of_isPlain h (hmarks c hmem) rfl

theorem phrase_of_isPlain {c : Char} (h : isPlain c = true) : Phrase [.code c] := by
  have hmark := isMark_of_isPlain h
  have hdash : c ≠ '-' := ne_of_isPlain h rfl
  have hopen : c ≠ '(' := ne_of_isPlain h rfl
  have hclose : c ≠ ')' := ne_of_isPlain h rfl
  have hblank : c ≠ ' ' := ne_of_isPlain h rfl
  refine ⟨⟨?_, ?_⟩, ?_⟩
  · simp [tame, tameAfter, hmark, hdash]
  · simp [Sql.Balanced, depthAfter, Lexeme.nest, hopen, hclose]
  · simp [unjoined, Lexeme.nest, hblank, hopen, hclose]

/-- A minus sign has a digit after it. -/
theorem phrase_minus {c : Char} (h : isPlain c = true) : Phrase [.code '-', .code c] := by
  have hmark := isMark_of_isPlain h
  have hdash : c ≠ '-' := ne_of_isPlain h rfl
  have hc := phrase_of_isPlain h
  refine ⟨⟨?_, ?_⟩, ?_⟩
  · simp [tame, tameAfter, hmark, hdash, show isMark '-' = false from rfl]
  · exact Sql.Balanced.append (a := [.code '-']) (by decide) hc.balanced
  · exact unjoined_append (a := [.code '-']) (by decide) fun e he => by cases he; exact hc.unjoined

theorem phrase_word : ∀ {cs : List Char}, (∀ c ∈ cs, isPlain c = true) → Phrase (cs.map .code)
  | [], _ => by decide
  | c :: cs, h =>
    (phrase_of_isPlain (h c (by simp))).append (phrase_word fun d hd => h d (by simp [hd]))

theorem isPlain_of_isIdentifier {cs : List Char} (h : isIdentifier cs = true) :
    ∀ c ∈ cs, isPlain c = true := by
  cases cs with
  | nil => cases h
  | cons d cs =>
    simp only [isIdentifier, Bool.and_eq_true, Bool.or_eq_true, List.all_eq_true] at h
    intro c hc
    simp only [isPlain, Bool.or_eq_true]
    rcases List.mem_cons.mp hc with rfl | hc
    · rcases h.1 with h | h
      · exact .inl (.inl (by simp [Char.isAlphanum, h]))
      · exact .inl (.inr h)
    · exact .inl (h.2 c hc)

theorem isPlain_of_isTableName {name : String} (h : isTableName name = true) :
    ∀ c ∈ name.toList, isPlain c = true := by
  have hsplit := List.takeWhile_append_dropWhile (p := (· != '.')) (l := name.toList)
  simp only [isTableName] at h
  cases hdrop : name.toList.dropWhile (· != '.') with
  | nil =>
    rw [hdrop] at h
    exact isPlain_of_isIdentifier h
  | cons d rest =>
    have hd : d = '.' := by
      have hhead := List.head?_dropWhile_not (· != '.') name.toList
      rw [hdrop] at hhead
      simpa using hhead
    rw [hdrop, Bool.and_eq_true] at h
    intro c hc
    rw [← hsplit, hdrop, hd, List.mem_append, List.mem_cons] at hc
    rcases hc with hc | rfl | hc
    · exact isPlain_of_isIdentifier h.1 c hc
    · rfl
    · exact isPlain_of_isIdentifier h.2 c hc

theorem phrase_decimal (n : Nat) : Phrase ((Text.decimal n).map .code) :=
  phrase_word fun _ hc => isPlain_of_isDigit (Text.isDigit_of_mem_decimal hc)

theorem phrase_signed (n : Int) : Phrase ((Text.signed n).map .code) := by
  unfold Text.signed
  split
  · have hdigit := fun c (hc : c ∈ Text.decimal n.natAbs) =>
      isPlain_of_isDigit (Text.isDigit_of_mem_decimal hc)
    cases hds : Text.decimal n.natAbs with
    | nil => exact absurd hds (Text.decimal_ne_nil _)
    | cons d ds =>
      rw [hds] at hdigit
      exact (phrase_minus (hdigit d (by simp))).append
        (phrase_word fun c hc => hdigit c (List.mem_cons_of_mem _ hc))
  · exact phrase_decimal _

/-! ## What is not continued to a connective -/

theorem noConnective_of_ne {l : Lexeme} (hA : l ≠ .code 'A') (hO : l ≠ .code 'O')
    (ls : List Lexeme) : noConnective (l :: ls) = true := by
  rw [noConnective, List.all_eq_true]
  intro w hw
  rcases List.mem_cons.mp hw with rfl | hw
  · simp [differs, hA]
  · rw [List.mem_singleton.mp hw]
    simp [differs, hO]

theorem noConnective_signed (n : Int) : noConnective ((Text.signed n).map .code) = true := by
  unfold Text.signed
  split
  · exact noConnective_of_ne (by decide) (by decide) _
  · cases hds : Text.decimal n.natAbs with
    | nil => exact absurd hds (Text.decimal_ne_nil _)
    | cons d ds =>
      have hmem : d ∈ Text.decimal n.natAbs := by
        rw [hds]
        exact List.mem_cons_self
      have hd : d.isDigit = true := Text.isDigit_of_mem_decimal hmem
      refine noConnective_of_ne ?_ ?_ _
      · rintro ⟨⟩
        cases hd
      · rintro ⟨⟩
        cases hd

/-- A dot before the first blank is not in a text that has a blank and no dot. -/
theorem differs_dot (rest : List Lexeme) : ∀ {w cs : List Char}, ' ' ∈ w → '.' ∉ w → ' ' ∉ cs →
    differs w (cs.map .code ++ .code '.' :: rest) = true
  | [], _, hw, _, _ => by cases hw
  | d :: w, [], _, hdot, _ => by
    have hd : '.' ≠ d := fun h => hdot (by rw [h]; exact List.mem_cons_self)
    simp [differs, hd]
  | d :: w, c :: cs, hw, hdot, hcs => by
    by_cases hcd : c = d
    · have hd : d ≠ ' ' := fun h => hcs (by rw [hcd, h]; exact List.mem_cons_self)
      have hw' : ' ' ∈ w := (List.mem_cons.mp hw).resolve_left fun h => hd h.symm
      have ih := differs_dot rest hw' (fun h => hdot (List.mem_cons_of_mem _ h))
        (fun h => hcs (List.mem_cons_of_mem c h))
      simp [differs, ih]
    · simp [differs, hcd]

theorem noConnective_dot {cs : List Char} (hcs : ' ' ∉ cs) (rest : List Lexeme) :
    noConnective (cs.map .code ++ .code '.' :: rest) = true := by
  rw [noConnective, List.all_eq_true]
  intro w hw
  have hblank : ∀ w ∈ connectives, ' ' ∈ w.toList ∧ '.' ∉ w.toList := by decide
  exact differs_dot rest (hblank w hw).1 (hblank w hw).2 hcs

/-- A text that ends in a blank, before what is not continued to a connective. -/
theorem Sql.Phrase.after {w : String} (v : String) (hw : codes w = codes v ++ codes " ")
    (hv : Phrase (codes v)) {ls : List Lexeme} (h : Phrase ls) (hc : noConnective ls = true) :
    Phrase (codes w ++ ls) := by
  rw [hw, List.append_assoc]
  exact hv.append (h.blank hc)

/-! ## Expressions -/

theorem PathStep.phrase_lexemes : ∀ (s : PathStep), Phrase (codes "->" ++ s.lexemes)
  | member name => ⟨⟨rfl, rfl⟩, rfl⟩
  | item index => by
    refine Phrase.append (by decide) ?_
    rw [lexemes, codes, String.toList_ofList]
    exact phrase_decimal index

theorem PathStep.phrase_last : ∀ (s : PathStep), Phrase (codes "->>" ++ s.lexemes)
  | member name => ⟨⟨rfl, rfl⟩, rfl⟩
  | item index => by
    refine Phrase.append (by decide) ?_
    rw [lexemes, codes, String.toList_ofList]
    exact phrase_decimal index

namespace Expr

theorem phrase_pathLexemes : ∀ path, Phrase (pathLexemes path)
  | [] => by decide
  | [last] => last.phrase_last
  | step :: next :: path => step.phrase_lexemes.append (phrase_pathLexemes (next :: path))

variable {scope : List String}

theorem Reads.phrase (hs : ∀ t ∈ scope, isTableName t = true) : ∀ {e : Expr}, e.Reads scope →
    Phrase e.lexemes
  | column table name, h => by
    rw [lexemes, codes_append, codes_append]
    refine Phrase.append (Phrase.append ?_ (by decide)) ?_
    · exact phrase_word (isPlain_of_isTableName (hs table h.1))
    · exact phrase_word (isPlain_of_isIdentifier h.2)
  | documentText table path, h => by
    rw [lexemes, codes_append]
    refine Phrase.append (Phrase.append ?_ (by decide)) (phrase_pathLexemes path)
    exact phrase_word (isPlain_of_isTableName (hs table h.1))
  | group e, h => Phrase.paren (Reads.phrase (e := e) hs h).toPassage
  | cast e type, h => by
    refine (Phrase.paren (Reads.phrase (e := e) hs h).toPassage).append ?_
    cases type <;> decide

theorem blank_not_mem_of_isTableName {name : String} (h : isTableName name = true) :
    ' ' ∉ name.toList := fun hmem => by
  have hblank := isPlain_of_isTableName h _ hmem
  cases hblank

/-- The table of an expression is followed by a dot. -/
theorem Reads.noConnective (hs : ∀ t ∈ scope, isTableName t = true) : ∀ {e : Expr},
    e.Reads scope → noConnective e.lexemes = true
  | column table name, h => by
    rw [lexemes, codes_append, codes_append, List.append_assoc]
    exact noConnective_dot (blank_not_mem_of_isTableName (hs table h.1)) _
  | documentText table path, h => by
    rw [lexemes, codes_append, List.append_assoc]
    exact noConnective_dot (blank_not_mem_of_isTableName (hs table h.1)) _
  | group e, _ => noConnective_of_ne (by decide) (by decide) _
  | cast e _, _ => noConnective_of_ne (by decide) (by decide) _

theorem phrase_keyLexemes (hs : ∀ t ∈ scope, isTableName t = true) : ∀ {key : List Expr},
    (∀ e ∈ key, e.Reads scope) → Phrase (keyLexemes key)
  | [], _ => by decide
  | [e], h => (h e (by simp)).phrase hs
  | e :: e' :: key, h => by
    refine Phrase.paren (Passage.intercalate (by decide) fun ls hls => ?_)
    obtain ⟨d, hd, rfl⟩ := List.mem_map.mp hls
    exact ((h d hd).phrase hs).toPassage

end Expr

/-! ## Predicates -/

namespace Predicate

variable {scope : List String}

theorem noConnective_idText (id : Int64) : noConnective (codes (idText id)) = true := by
  rw [idText, codes, String.toList_ofList]
  exact noConnective_signed _

theorem phrase_idText (id : Int64) : Phrase (codes (idText id)) := by
  rw [idText, codes, String.toList_ofList]
  exact phrase_signed _

theorem phrase_idsLexemes {e : Expr} (he : Phrase e.lexemes) (ids : List Int64) :
    Phrase (idsLexemes e ids) := by
  unfold idsLexemes
  split
  · rename_i id
    refine he.append ?_
    exact Phrase.after " =" rfl (by decide) (phrase_idText id) (noConnective_idText id)
  · have hlist : Passage ((codes ", ").intercalate (ids.map fun id => codes (idText id))) := by
      refine Passage.intercalate (by decide) fun ls hls => ?_
      obtain ⟨id, _, rfl⟩ := List.mem_map.mp hls
      exact (phrase_idText id).toPassage
    refine he.append ?_
    exact Phrase.after " IN" rfl (by decide) (Phrase.paren hlist)
      (noConnective_of_ne (by decide) (by decide) _)

/-- Literals between commas, in parentheses. -/
theorem phrase_literals (vs : List String) :
    Phrase (codes "(" ++ (codes ", ").intercalate (vs.map ([.literal ·])) ++ codes ")") := by
  refine Phrase.paren_of_tame (tame_list (by decide) (by decide) vs) ?_
  refine intercalate_of_append (P := Sql.Balanced) rfl (fun _ _ => Balanced.append) (by decide) ?_
  intro ls hls
  obtain ⟨v, _, rfl⟩ := List.mem_map.mp hls
  exact rfl

/-- **A predicate on tables that have table names is a phrase.** -/
theorem Reads.phrase (hs : ∀ t ∈ scope, isTableName t = true) {p : Predicate}
    (h : p.Reads scope) : Phrase p.lexemes := by
  obtain ⟨hsql, he⟩ := h
  cases p with
  | fragment sql => exact absurd rfl (hsql sql)
  | equal left right =>
    have hl := he left (by simp [exprs])
    have hr := he right (by simp [exprs])
    refine (hl.phrase hs).append ?_
    exact Phrase.after " =" rfl (by decide) (hr.phrase hs) (hr.noConnective hs)
  | isNull e =>
    have he := he e (by simp [exprs])
    exact (he.phrase hs).append (by decide)
  | hasId e ids =>
    have he := he e (by simp [exprs])
    exact phrase_idsLexemes (he.phrase hs) ids.toList
  | isText e value =>
    have he := he e (by simp [exprs])
    exact (he.phrase hs).append ⟨⟨rfl, rfl⟩, rfl⟩
  | hasText e values =>
    have he := he e (by simp [exprs])
    refine (he.phrase hs).append ?_
    exact Phrase.after " IN" rfl (by decide) (phrase_literals values.toList)
      (noConnective_of_ne (by decide) (by decide) _)
  | isLike e pattern =>
    have he := he e (by simp [exprs])
    exact (he.phrase hs).append ⟨⟨rfl, rfl⟩, rfl⟩
  | matchesRegex e pattern =>
    have he := he e (by simp [exprs])
    exact (Phrase.paren (he.phrase hs).toPassage).append ⟨⟨rfl, rfl⟩, rfl⟩
  | hasPath document path =>
    have he := he document (by simp [exprs])
    have harguments : Passage (document.lexemes ++ (codes ", " ++ [.literal path])) :=
      (he.phrase hs).toPassage.append ⟨rfl, rfl⟩
    exact Phrase.append (by decide) (Phrase.paren harguments)
  | relatesTo geometry relation wkt srid =>
    have he := he geometry (by simp [exprs])
    have hsrid : Phrase (codes (String.ofList (Text.signed srid.toInt))) := by
      rw [codes, String.toList_ofList]
      exact phrase_signed _
    have hopen : Sql.tame (codes "(" ++ ([.literal wkt] ++ codes ", ")) = true := rfl
    have hgeometry : Phrase (codes "(" ++ ([.literal wkt] ++ (codes ", " ++
        codes (String.ofList (Text.signed srid.toInt)))) ++ codes ")") := by
      refine Phrase.paren_of_tame ?_ (Balanced.append rfl (Balanced.append rfl hsrid.balanced))
      have htame := tame_append hopen hsrid.tame
      rwa [List.append_assoc, List.append_assoc] at htame
    have hfunction : Phrase (codes relation.function) := by cases relation <;> decide
    have hconvert : Phrase (codes ", ST_GeomFromText") := by decide
    exact hfunction.append (Phrase.paren ((he.phrase hs).append
      (hconvert.append hgeometry)).toPassage)
  | liesWithin time first last =>
    have he := he time (by simp [exprs])
    refine Phrase.append ⟨⟨rfl, rfl⟩, rfl⟩ ?_
    exact Phrase.after " @>" rfl (by decide) (he.phrase hs) (he.noConnective hs)
  | periodRelates start stop relation first last =>
    have hstart := Phrase.paren ((he start (by simp [exprs])).phrase hs).toPassage
    have hstop := Phrase.paren ((he stop (by simp [exprs])).phrase hs).toPassage
    have hcast : Phrase (codes ("::" ++ SqlType.timestamptz.text)) := by decide
    have hperiod : Phrase (codes "tstzrange" ++ (codes "(" ++
        ((start.cast .timestamptz).lexemes ++ (codes "," ++
          (stop.cast .timestamptz).lexemes)) ++ codes ")")) := by
      refine Phrase.append (by decide) (Phrase.paren ?_)
      exact ((hstart.append hcast).append
        (Phrase.append (by decide) (hstop.append hcast))).toPassage
    refine hperiod.append ?_
    cases relation <;> exact ⟨⟨rfl, rfl⟩, rfl⟩

/-- Several alternatives stand in parentheses, so the connectives between them are inside. -/
theorem phrase_anyLexemes (hs : ∀ t ∈ scope, isTableName t = true) {first : Predicate}
    {others : List Predicate} (hfirst : first.Reads scope) (hothers : ∀ p ∈ others, p.Reads scope) :
    Phrase (anyLexemes first others) := by
  unfold anyLexemes
  split
  · exact hfirst.phrase hs
  · refine Phrase.paren (Passage.intercalate (by decide) fun ls hls => ?_)
    obtain ⟨p, hp, rfl⟩ := List.mem_map.mp hls
    rcases List.mem_cons.mp hp with rfl | hp
    · exact (hfirst.phrase hs).toPassage
    · exact ((hothers p hp).phrase hs).toPassage

end Predicate

/-! ## Queries -/

theorem passage_table {table : String} (h : isTableName table = true) : Passage (codes table) :=
  (phrase_word (isPlain_of_isTableName h)).toPassage

theorem Join.ListRead.passage {scope : List String} (hs : ∀ t ∈ scope, isTableName t = true) :
    ∀ {joins : List Join}, ListRead scope joins →
      Passage (joins.flatMap fun j => codes " " ++ j.lexemes)
  | [], _ => by decide
  | j :: joins, ⟨hj, hjoins⟩ => by
    have hs' : ∀ t ∈ j.table :: scope, isTableName t = true := List.forall_mem_cons.mpr ⟨hj.1, hs⟩
    have hj : Passage (codes " " ++ j.lexemes) := by
      refine Passage.append (by decide) ?_
      refine Passage.append (Passage.append ?_ (by decide)) (hj.on.phrase hs').toPassage
      exact Passage.append (by decide) (passage_table hj.1)
    rw [List.flatMap_cons]
    exact hj.append (Join.ListRead.passage hs' hjoins)

theorem Expr.passage_list {scope : List String} (hs : ∀ t ∈ scope, isTableName t = true)
    {es : List Expr} (h : ∀ e ∈ es, e.Reads scope) :
    Passage ((codes ", ").intercalate (es.map lexemes)) := by
  refine Passage.intercalate (by decide) fun ls hls => ?_
  obtain ⟨e, he, rfl⟩ := List.mem_map.mp hls
  exact ((h e he).phrase hs).toPassage

theorem OrderKey.passage_lexemes {key : OrderKey} (h : Phrase key.expr.lexemes) :
    Passage key.lexemes := by
  have hdirection : ∀ d, Passage (codes (directionText d)) := by
    rintro (_ | _ | _) <;> decide
  exact h.toPassage.append (hdirection key.direction)

namespace Query.Reading

variable {q : Query}

theorem passage_source (h : q.Reading)
    (hc : ∀ ls ∈ Condition.lexemeLists q.conditions, Phrase ls) :
    Passage (sourceLexemes q.table q.joins (Condition.lexemeLists q.conditions)) := by
  have htable : ∀ t ∈ [q.table], isTableName t = true := by simpa using h.table
  refine Passage.append (Passage.append (Passage.append (by decide) (passage_table h.table))
    (h.joins.passage htable)) ?_
  split
  · decide
  · exact Passage.append (by decide)
      (Passage.intercalate (by decide) fun ls hls => (hc ls hls).toPassage)

theorem passage_distinct (h : q.Reading) : Passage (distinctLexemes q.distinct) := by
  unfold distinctLexemes
  split
  · decide
  · have hlist := Phrase.paren (Expr.passage_list h.scope h.distinct)
    exact Passage.append (Passage.append (by decide) hlist.toPassage) (by decide)

theorem passage_selected (h : q.Reading) : Passage (selectedLexemes q.table q.select) := by
  unfold selectedLexemes
  split
  · exact (passage_table h.table).append (by decide)
  · exact Expr.passage_list h.scope h.select

theorem passage_ordered (h : q.Reading) : Passage (orderedLexemes q.orderBy) := by
  unfold orderedLexemes
  split
  · decide
  · refine Passage.append (by decide) (Passage.intercalate (by decide) fun ls hls => ?_)
    obtain ⟨key, hkey, rfl⟩ := List.mem_map.mp hls
    exact key.passage_lexemes ((h.orderBy key hkey).phrase h.scope)

theorem passage_limited : ∀ limit, Passage (limitedLexemes limit)
  | none => by decide
  | some n => by
    refine Passage.append (by decide) ?_
    rw [codes, Nat.repr, String.toList_ofList]
    exact (phrase_decimal n.toNat).toPassage

theorem passage (h : q.Reading) (hc : ∀ ls ∈ Condition.lexemeLists q.conditions, Phrase ls) :
    Passage q.lexemes := by
  obtain ⟨table, select, distinct, joins, conditions, orderBy, limit⟩ := q
  have hselect : Passage (codes "SELECT ") := by decide
  have hblank : Passage (codes " ") := by decide
  have hhead := ((hselect.append h.passage_distinct).append h.passage_selected).append hblank
  rw [Query.lexemes]
  exact ((hhead.append (h.passage_source hc)).append h.passage_ordered).append
    (passage_limited limit)

end Query.Reading

mutual

/-- **A condition on tables that have table names is a phrase.** -/
theorem Condition.Reads.phrase {scope : List String} (hs : ∀ t ∈ scope, isTableName t = true) :
    ∀ {c : Condition}, c.Reads scope → Phrase c.lexemes
  | .anyOf first others, h => by
    rw [Condition.Reads] at h
    rw [Condition.lexemes]
    exact Predicate.phrase_anyLexemes hs h.1 h.2
  | .inQuery key query, h => by
    rw [Condition.Reads] at h
    rw [Condition.lexemes]
    exact (Expr.phrase_keyLexemes hs h.1).append (Phrase.after " IN" rfl (by decide)
      (Phrase.paren (Query.Scoped.passage h.2.2)) (noConnective_of_ne (by decide) (by decide) _))

theorem Condition.ListRead.phrase {scope : List String}
    (hs : ∀ t ∈ scope, isTableName t = true) :
    ∀ {cs : List Condition}, Condition.ListRead scope cs →
      ∀ ls ∈ Condition.lexemeLists cs, Phrase ls
  | [], _ => by simp [Condition.lexemeLists]
  | c :: cs, h => by
    rw [Condition.ListRead] at h
    rw [Condition.lexemeLists, List.forall_mem_cons]
    exact ⟨Condition.Reads.phrase hs h.1, Condition.ListRead.phrase hs h.2⟩

/-- **The query that returns the rows is a passage.** -/
theorem Query.Scoped.passage : ∀ {q : Query}, q.Scoped → Passage q.lexemes
  | ⟨table, select, distinct, joins, conditions, orderBy, limit⟩, h => by
    have hread := (Query.scoped_iff _).mp h
    rw [Query.Scoped] at h
    exact hread.passage (Condition.ListRead.phrase hread.scope h.2.2.2.2.1)

end

theorem Query.Reading.phrases {q : Query} (h : q.Reading) :
    ∀ ls ∈ Condition.lexemeLists q.conditions, Phrase ls :=
  Condition.ListRead.phrase h.scope (Condition.listRead_iff.mpr h.conditions)

/-- **The query that counts the rows is a passage too.** -/
theorem Query.Scoped.count_passage {q : Query} (h : q.Scoped) : Passage q.countLexemes := by
  have hread := (Query.scoped_iff q).mp h
  have hcount : Passage (codes "SELECT COUNT" ++ (codes "(" ++ codes "*" ++ codes ")") ++
      codes " ") := by decide
  refine hcount.append ?_
  split
  · exact hread.passage_source hread.phrases
  · have hrows := Phrase.paren (hread.unlimited.passage hread.phrases)
    exact (Passage.append (by decide) hrows.toPassage).append (by decide)

end ObservationQuery
