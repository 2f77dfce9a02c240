import ObservationQuery.Proofs.Sql.Lexeme

/-!
# Parentheses and connectives

Conditions are joined by ` AND ` without parentheses, so the parts are found again only if none of
them closes a parenthesis that it did not open or has a connective outside its parentheses.

* `depthAfter` — how many parentheses are open after some lexemes, if none is closed too early;
  `Balanced` — none is left open.
* `FreeOf` — a text does not occur outside literals and parentheses.
* `Passage` — tame and balanced lexemes; `Phrase` — a passage in which no ` AND ` and no ` OR `
  begins outside parentheses, whatever text follows.
* `conjuncts` — the parts of a text between the ` AND `s outside literals and parentheses.

Principal results: `Phrase.freeOf_and`, `Phrase.freeOf_or` — a phrase has no connective outside
parentheses; `conjuncts_join` — phrases joined by ` AND ` are found again.
-/

namespace ObservationQuery.Sql

/-! ## Depth -/

/-- How many parentheses are open after a lexeme, if it closes none that is not open. -/
def Lexeme.nest (d : Nat) : Lexeme → Option Nat
  | .literal _ => some d
  | .code c =>
    if c = '(' then some (d + 1)
    else if c = ')' then (if d = 0 then none else some (d - 1))
    else some d

/-- How many parentheses are open after some lexemes, if each of them closes only what is open. -/
def depthAfter (d : Nat) (ls : List Lexeme) : Option Nat := ls.foldlM Lexeme.nest d

/-- Each parenthesis is closed after it was opened. -/
def Balanced (ls : List Lexeme) : Prop := depthAfter 0 ls = some 0

instance (ls : List Lexeme) : Decidable (Balanced ls) :=
  inferInstanceAs (Decidable (depthAfter 0 ls = some 0))

@[simp] theorem depthAfter_nil (d : Nat) : depthAfter d [] = some d := rfl

theorem depthAfter_cons (d : Nat) (l : Lexeme) (ls : List Lexeme) :
    depthAfter d (l :: ls) = (l.nest d).bind fun e => depthAfter e ls := rfl

theorem depthAfter_append (d : Nat) (a b : List Lexeme) :
    depthAfter d (a ++ b) = (depthAfter d a).bind fun e => depthAfter e b := List.foldlM_append

theorem nest_add {d e : Nat} {l : Lexeme} (h : l.nest d = some e) (k : Nat) :
    l.nest (k + d) = some (k + e) := by
  cases l with
  | literal v => simpa [Lexeme.nest] using h
  | code c =>
    by_cases ho : c = '('
    · simp only [Lexeme.nest, if_pos ho, Option.some.injEq] at h ⊢
      omega
    · by_cases hc : c = ')'
      · simp only [Lexeme.nest, if_neg ho, if_pos hc] at h ⊢
        by_cases hd : d = 0
        · rw [if_pos hd] at h; cases h
        · rw [if_neg hd, Option.some.injEq] at h
          rw [if_neg (by omega), Option.some.injEq]
          omega
      · simp only [Lexeme.nest, if_neg ho, if_neg hc, Option.some.injEq] at h ⊢
        omega

theorem depthAfter_add (k : Nat) : ∀ {ls : List Lexeme} {d e : Nat}, depthAfter d ls = some e →
    depthAfter (k + d) ls = some (k + e)
  | [], d, e, h => by cases h; rfl
  | l :: ls, d, e, h => by
    rw [depthAfter_cons] at h ⊢
    obtain ⟨m, hm, hls⟩ := Option.bind_eq_some_iff.mp h
    rw [nest_add hm k, Option.bind_some]
    exact depthAfter_add k hls

theorem Balanced.depthAfter {ls : List Lexeme} (h : Balanced ls) (d : Nat) :
    depthAfter d ls = some d := depthAfter_add d h

theorem Balanced.append {a b : List Lexeme} (ha : Balanced a) (hb : Balanced b) :
    Balanced (a ++ b) := by
  unfold Balanced
  rw [depthAfter_append, ha]
  exact hb

theorem Balanced.paren {ls : List Lexeme} (h : Balanced ls) :
    Balanced (codes "(" ++ ls ++ codes ")") := by
  unfold Balanced
  rw [depthAfter_append, depthAfter_append, show Sql.depthAfter 0 (codes "(") = some 1 from rfl,
    Option.bind_some, h.depthAfter 1]
  rfl

/-! ## Connectives -/

/-- The text `w` does not occur outside literals and parentheses. -/
def FreeOf (w : String) (ls : List Lexeme) : Prop :=
  ∀ a b, ls = a ++ codes w ++ b → depthAfter 0 a ≠ some 0

/-- The connectives, after the blank before them. -/
def connectives : List String := ["AND ", "OR "]

/-- Whether `ls` differs from `w` at a place that both have, so that no text that begins with `ls`
begins with `w`. -/
def differs : List Char → List Lexeme → Bool
  | c :: w, l :: ls => l ≠ .code c || differs w ls
  | _, _ => false

/-- Whether no text that begins with `ls` begins with a connective. -/
def noConnective (ls : List Lexeme) : Bool := connectives.all fun w => differs w.toList ls

/-- Whether no connective begins outside parentheses, of which `d` are open, whatever text
follows. -/
def unjoined : Nat → List Lexeme → Bool
  | _, [] => true
  | d, l :: ls =>
    (d ≠ 0 || l ≠ .code ' ' || noConnective ls) &&
      match l.nest d with
      | none => true
      | some e => unjoined e ls

theorem differs_append : ∀ {w : List Char} {a : List Lexeme}, differs w a = true →
    ∀ b, differs w (a ++ b) = true
  | [], a, h, b => by simp [differs] at h
  | c :: w, [], h, b => by simp [differs] at h
  | c :: w, l :: a, h, b => by
    simp only [List.cons_append, differs, Bool.or_eq_true] at h ⊢
    rcases h with h | h
    · exact .inl h
    · exact .inr (differs_append h b)

theorem differs_codes (b : List Lexeme) : ∀ (w : List Char),
    differs w (w.map Lexeme.code ++ b) = false
  | [] => by simp [differs]
  | c :: w => by simp [differs, differs_codes b w]

theorem noConnective_append {a : List Lexeme} (h : noConnective a = true) (b : List Lexeme) :
    noConnective (a ++ b) = true := by
  rw [noConnective, List.all_eq_true] at h ⊢
  exact fun w hw => differs_append (h w hw) b

theorem unjoined_append {b : List Lexeme} : ∀ {a : List Lexeme} {d : Nat}, unjoined d a = true →
    (∀ e, depthAfter d a = some e → unjoined e b = true) → unjoined d (a ++ b) = true
  | [], d, _, hb => hb d rfl
  | l :: a, d, ha, hb => by
    rw [List.cons_append, unjoined, Bool.and_eq_true]
    rw [unjoined, Bool.and_eq_true] at ha
    refine ⟨?_, ?_⟩
    · have h := ha.1
      rw [Bool.or_eq_true] at h ⊢
      exact h.imp_right fun h => noConnective_append h b
    · have h := ha.2
      cases hl : l.nest d with
      | none => rfl
      | some e =>
        rw [hl] at h
        exact unjoined_append h fun m hm => hb m (by rw [depthAfter_cons, hl]; exact hm)

/-- Inside parentheses connectives do not matter. -/
theorem unjoined_of_depthAfter : ∀ {ls : List Lexeme} {k m : Nat} (d : Nat),
    depthAfter k ls = some m → unjoined (d + 1 + k) ls = true
  | [], _, _, _, _ => rfl
  | l :: ls, k, m, d, h => by
    rw [depthAfter_cons] at h
    obtain ⟨e, he, hls⟩ := Option.bind_eq_some_iff.mp h
    rw [unjoined, nest_add he (d + 1), Bool.and_eq_true]
    refine ⟨?_, unjoined_of_depthAfter d hls⟩
    rw [show decide (d + 1 + k ≠ 0) = true from decide_eq_true (by omega)]
    rfl

theorem unjoined_paren {ls : List Lexeme} (h : Balanced ls) :
    unjoined 0 (codes "(" ++ ls ++ codes ")") = true := by
  rw [List.append_assoc]
  refine unjoined_append (by decide) fun e he => ?_
  cases he
  refine unjoined_append (unjoined_of_depthAfter 0 h) fun e he => ?_
  rw [h.depthAfter] at he
  cases he
  decide

theorem freeOf_of_unjoined {w : String} (hw : w ∈ connectives) :
    ∀ {a b : List Lexeme} {d : Nat},
      unjoined d (a ++ (.code ' ' :: codes w) ++ b) = true → depthAfter d a ≠ some 0
  | [], b, d, h => by
    intro hd
    cases hd
    rw [List.nil_append, List.cons_append, unjoined, Bool.and_eq_true] at h
    have hclear : noConnective (codes w ++ b) = true := by simpa using h.1
    rw [noConnective, List.all_eq_true] at hclear
    have hdiff := hclear w hw
    rw [codes, differs_codes] at hdiff
    cases hdiff
  | l :: a, b, d, h => by
    rw [depthAfter_cons]
    rw [List.cons_append, List.cons_append, unjoined, Bool.and_eq_true] at h
    cases hl : l.nest d with
    | none => simp
    | some e =>
      have hrest := h.2
      rw [hl] at hrest
      exact freeOf_of_unjoined hw hrest

/-! ## Passages and phrases -/

/-- Lexemes that can stand in parentheses. -/
structure Passage (ls : List Lexeme) : Prop where
  tame : tame ls = true
  balanced : Balanced ls

/-- Lexemes that can stand between connectives. -/
structure Phrase (ls : List Lexeme) : Prop extends Passage ls where
  unjoined : unjoined 0 ls = true

instance (ls : List Lexeme) : Decidable (Passage ls) :=
  decidable_of_iff (tame ls = true ∧ Balanced ls)
    ⟨fun h => ⟨h.1, h.2⟩, fun h => ⟨h.tame, h.balanced⟩⟩

instance (ls : List Lexeme) : Decidable (Phrase ls) :=
  decidable_of_iff (Passage ls ∧ unjoined 0 ls = true)
    ⟨fun h => ⟨h.1, h.2⟩, fun h => ⟨h.toPassage, h.unjoined⟩⟩

namespace Passage

variable {a b : List Lexeme}

theorem append (ha : Passage a) (hb : Passage b) : Passage (a ++ b) :=
  ⟨tame_append ha.tame hb.tame, ha.balanced.append hb.balanced⟩

theorem intercalate {sep : List Lexeme} (hsep : Passage sep) {parts : List (List Lexeme)}
    (h : ∀ p ∈ parts, Passage p) : Passage (sep.intercalate parts) :=
  intercalate_of_append (P := Passage) ⟨rfl, rfl⟩ (fun _ _ => append) hsep h

end Passage

namespace Phrase

variable {a b ls : List Lexeme}

theorem append (ha : Phrase a) (hb : Phrase b) : Phrase (a ++ b) := by
  refine ⟨ha.toPassage.append hb.toPassage, ?_⟩
  refine unjoined_append ha.unjoined fun e he => ?_
  rw [ha.balanced] at he
  cases he
  exact hb.unjoined

/-- A literal may follow the opening parenthesis. -/
theorem paren_of_tame (ht : Sql.tame (codes "(" ++ ls) = true) (hb : Balanced ls) :
    Phrase (codes "(" ++ ls ++ codes ")") :=
  ⟨⟨tame_append ht (by decide), hb.paren⟩, unjoined_paren hb⟩

theorem paren (h : Passage ls) : Phrase (codes "(" ++ ls ++ codes ")") :=
  paren_of_tame (tame_append (by decide) h.tame) h.balanced

/-- A blank may stand before what cannot be continued to a connective. -/
theorem blank (h : Phrase ls) (hc : noConnective ls = true) : Phrase (codes " " ++ ls) := by
  refine ⟨Passage.append (by decide) h.toPassage, ?_⟩
  show Sql.unjoined 0 (.code ' ' :: ls) = true
  rw [Sql.unjoined, hc]
  simpa [Lexeme.nest] using h.unjoined

theorem freeOf_and (h : Phrase ls) : FreeOf " AND " ls := by
  rintro a b rfl
  exact freeOf_of_unjoined (w := "AND ") (by decide) h.unjoined

theorem freeOf_or (h : Phrase ls) : FreeOf " OR " ls := by
  rintro a b rfl
  exact freeOf_of_unjoined (w := "OR ") (by decide) h.unjoined

end Phrase

/-! ## Taking a conjunction apart -/

/-- The parts between the separators outside parentheses, of which `d` are open, after skipping
`skip` lexemes; the parentheses have to be balanced. -/
def splitFrom (sep : List Lexeme) : Nat → Nat → List Lexeme → Option (List (List Lexeme))
  | _, d, [] => if d = 0 then some [[]] else none
  | skip + 1, d, _ :: ls => splitFrom sep skip d ls
  | 0, d, l :: ls =>
    if d = 0 ∧ sep <+: l :: ls then (splitFrom sep (sep.length - 1) 0 ls).map ([] :: ·)
    else (l.nest d).bind fun e => (splitFrom sep 0 e ls).map (List.modifyHead (l :: ·))

/-- The parts of a text between the ` AND `s outside literals and parentheses. -/
def conjuncts (cs : List Char) : Option (List (List Char)) :=
  (scan cs).bind fun ls => (splitFrom (codes " AND ") 0 0 ls).map (List.map chars)

theorem splitFrom_skip (sep : List Lexeme) (rest : List Lexeme) : ∀ (xs : List Lexeme) (d : Nat),
    splitFrom sep xs.length d (xs ++ rest) = splitFrom sep 0 d rest
  | [], _ => rfl
  | _ :: xs, d => by
    rw [List.length_cons, List.cons_append, splitFrom]
    exact splitFrom_skip sep rest xs d

theorem splitFrom_sep (rest : List Lexeme) :
    splitFrom (codes " AND ") 0 0 (codes " AND " ++ rest) =
      (splitFrom (codes " AND ") 0 0 rest).map ([] :: ·) := by
  have hskip := splitFrom_skip (codes " AND ") rest (codes "AND ") 0
  show splitFrom (codes " AND ") 0 0 (.code ' ' :: (codes "AND " ++ rest)) = _
  rw [splitFrom, if_pos ⟨rfl, rest, rfl⟩]
  exact congrArg _ hskip

/-- A separator does not begin at a lexeme of a phrase. -/
theorem not_sep_of_unjoined {l : Lexeme} {ls rest : List Lexeme} {d : Nat}
    (h : unjoined d (l :: ls) = true) : ¬ (d = 0 ∧ codes " AND " <+: l :: (ls ++ rest)) := by
  rintro ⟨rfl, hpre⟩
  obtain ⟨t, ht⟩ := hpre
  rw [show codes " AND " = .code ' ' :: codes "AND " from rfl, List.cons_append] at ht
  obtain ⟨hl, htail⟩ := List.cons.inj ht
  subst hl
  rw [unjoined, Bool.and_eq_true] at h
  have hclear : noConnective ls = true := by simpa using h.1
  have hdiff := List.all_eq_true.mp (noConnective_append hclear rest) "AND " (by decide)
  rw [← htail, codes, differs_codes] at hdiff
  cases hdiff

theorem splitFrom_append (rest : List Lexeme) : ∀ {ls : List Lexeme} {d : Nat},
    unjoined d ls = true → depthAfter d ls = some 0 →
      splitFrom (codes " AND ") 0 d (ls ++ rest) =
        (splitFrom (codes " AND ") 0 0 rest).map (List.modifyHead (ls ++ ·))
  | [], d, _, hd => by
    cases hd
    have hid : List.modifyHead (([] : List Lexeme) ++ ·) = id := funext fun p => by cases p <;> rfl
    rw [List.nil_append, hid, Option.map_id_fun, id]
  | l :: ls, d, h, hd => by
    have hsep : ¬ (d = 0 ∧ codes " AND " <+: l :: (ls ++ rest)) := not_sep_of_unjoined h
    rw [depthAfter_cons] at hd
    obtain ⟨e, he, hls⟩ := Option.bind_eq_some_iff.mp hd
    rw [unjoined, he, Bool.and_eq_true] at h
    rw [List.cons_append, splitFrom, if_neg hsep, he, Option.bind_some,
      splitFrom_append rest h.2 hls, Option.map_map]
    congr 1
    funext p
    cases p <;> rfl

theorem splitFrom_intercalate : ∀ {parts : List (List Lexeme)}, parts ≠ [] →
    (∀ p ∈ parts, Phrase p) →
      splitFrom (codes " AND ") 0 0 ((codes " AND ").intercalate parts) = some parts
  | [], h, _ => absurd rfl h
  | [p], _, h => by
    have hp := h p (by simp)
    have happ := splitFrom_append [] hp.unjoined hp.balanced
    rw [List.append_nil] at happ
    rw [List.intercalate_singleton, happ]
    simp [splitFrom]
  | p :: q :: parts, _, h => by
    have hp := h p (by simp)
    have ih : splitFrom (codes " AND ") 0 0 ((codes " AND ").intercalate (q :: parts)) =
        some (q :: parts) :=
      splitFrom_intercalate (by simp) fun r hr => h r (List.mem_cons_of_mem _ hr)
    rw [List.intercalate_cons_cons, List.append_assoc,
      splitFrom_append _ hp.unjoined hp.balanced, splitFrom_sep, ih]
    simp

/-- **Phrases joined by ` AND ` are found again.** -/
theorem conjuncts_join {parts : List (List Lexeme)} (hne : parts ≠ [])
    (h : ∀ p ∈ parts, Phrase p) :
    conjuncts (chars ((codes " AND ").intercalate parts)) = some (parts.map chars) := by
  have htame : tame ((codes " AND ").intercalate parts) = true :=
    tame_intercalate (by decide) fun p hp => (h p hp).tame
  rw [conjuncts, scan_chars htame, Option.bind_some, splitFrom_intercalate hne h]
  rfl

example : conjuncts "a = 1 AND (b OR c AND d) AND e = ' AND '".toList =
    some ["a = 1".toList, "(b OR c AND d)".toList, "e = ' AND '".toList] := by decide

end ObservationQuery.Sql
