import Mathlib.Data.List.Basic
import ObservationQuery.Proofs.Instant
import ObservationQuery.Sql.Literal

/-!
# Reading the parts of SQL texts

A reader takes a value from the front of a text and gives it with the text that follows.

* `after?` — the text after a mark.
* `readLiteral` — the value of a string literal; two quotes in it stand for one.
* `readInteger` — the value of a decimal numeral.
* `readSeparated` — values with a separator between them.

Principal results: each reader takes what is written for a value and no more, as
`readLiteral_quote`, `readInteger_signed` and `readSeparated_intercalate`; `after?_eq_none_of_dot` —
a text that is led by another is told by its first point.
-/

namespace ObservationQuery.Sql

open Text

/-- Takes a value from the front of a text. -/
abbrev Reader (α : Type) := List Char → Option (α × List Char)

/-! ## Marks -/

/-- The text after a mark. -/
def after? (mark : String) (cs : List Char) : Option (List Char) := cs.dropPrefix? mark.toList

@[simp] theorem after?_append (mark : String) (rest : List Char) :
    after? mark (mark.toList ++ rest) = some rest :=
  List.dropPrefix?_append_of_beq rest (beq_self_eq_true _)

@[simp] theorem after?_self (mark : String) : after? mark mark.toList = some [] := by
  simpa using after?_append mark []

theorem after?_eq_none {mark : String} {cs : List Char} (h : ¬ mark.toList <+: cs) :
    after? mark cs = none := by
  rw [Option.eq_none_iff_forall_not_mem]
  intro rest hrest
  obtain ⟨front, rfl, hfront⟩ := List.dropPrefix?_eq_some_iff.mp hrest
  rw [beq_iff_eq] at hfront
  subst hfront
  exact h (List.prefix_append _ rest)

/-- A mark with a point after its first part does not stand where this part comes after a text that
has no point: there are too few points. -/
theorem after?_eq_none_of_dot {part x y : String} {front : List Char} (hne : front ≠ [])
    (hdot : '.' ∉ front) :
    after? (part ++ "." ++ x) (front ++ (part ++ "." ++ y).toList) = none := by
  refine after?_eq_none fun h => ?_
  have hmark : (part ++ ".").toList <+: front ++ part.toList ++ (".".toList ++ y.toList) := by
    refine List.IsPrefix.trans (List.prefix_append _ x.toList) ?_
    simpa using h
  have hlength : 0 < front.length := List.length_pos_iff.mpr hne
  have hshort : (part ++ ".").toList <+: front ++ part.toList := by
    refine List.prefix_of_prefix_length_le hmark (List.prefix_append _ _) ?_
    simp
    omega
  have hcount := hshort.sublist.count_le '.'
  have hzero : front.count '.' = 0 := List.count_eq_zero.mpr hdot
  simp [hzero] at hcount

/-! ## Literals -/

/-- The value of a literal whose opening quote has been read. -/
def readInside : Reader (List Char)
  | [] => none
  | '\'' :: '\'' :: cs => (readInside cs).map fun (value, rest) => ('\'' :: value, rest)
  | '\'' :: cs => some ([], cs)
  | c :: cs => (readInside cs).map fun (value, rest) => (c :: value, rest)

/-- The value of a literal. -/
def readLiteral : Reader String
  | '\'' :: cs => (readInside cs).map fun (value, rest) => (String.ofList value, rest)
  | _ => none

theorem readInside_escaped {rest : List Char} (h : rest.head? ≠ some '\'') :
    ∀ value : List Char, readInside (value.flatMap escapeQuote ++ '\'' :: rest) = some (value, rest)
  | [] => by
    cases rest with
    | nil => rfl
    | cons d rest =>
      have hd : d ≠ '\'' := fun hd => h (by rw [hd]; rfl)
      rw [List.flatMap_nil, List.nil_append]
      unfold readInside
      split
      · rename_i heq
        cases heq
      · rename_i heq
        cases heq
        exact absurd rfl hd
      · rename_i heq
        cases heq
        rfl
      · rename_i hquote heq
        cases heq
        exact (hquote rfl).elim
  | c :: value => by
    have ih := readInside_escaped h value
    by_cases hc : c = '\''
    · subst hc
      rw [List.flatMap_cons, show escapeQuote '\'' = ['\'', '\''] from rfl]
      simp only [List.cons_append, List.nil_append, readInside, ih, Option.map_some]
    · rw [List.flatMap_cons, escapeQuote, if_neg hc, List.append_assoc, List.singleton_append,
        readInside, ih, Option.map_some]
      · exact fun _ hquote => absurd hquote hc
      · exact fun hquote => absurd hquote hc

/-- A literal is read back, whatever follows that is no quote. -/
theorem readLiteral_quote (s : String) {rest : List Char} (h : rest.head? ≠ some '\'') :
    readLiteral ((quote s).toList ++ rest) = some (s, rest) := by
  rw [toList_quote, List.append_assoc, List.cons_append, List.singleton_append, readLiteral,
    readInside_escaped h, Option.map_some]
  simp only [String.ofList_toList]

theorem readLiteral_quote_self (s : String) : readLiteral (quote s).toList = some (s, []) := by
  have hend : ([] : List Char).head? ≠ some '\'' := by simp
  have hread := readLiteral_quote s hend
  rwa [List.append_nil] at hread

/-! ## Integers -/

/-- The value of a numeral without a sign. -/
def readNatural (cs : List Char) : Option (Nat × List Char) :=
  match takeDigits cs.length cs with
  | ([], _) => none
  | (digits, rest) => some (ofDecimal digits, rest)

/-- The value of a numeral, which has a minus sign if it is negative. -/
def readInteger : Reader Int
  | '-' :: cs => (readNatural cs).map fun (n, rest) => (-(n : Int), rest)
  | cs => (readNatural cs).map fun (n, rest) => ((n : Int), rest)

theorem readNatural_decimal (n : Nat) {rest : List Char} (h : Stops rest) :
    readNatural (decimal n ++ rest) = some (n, rest) := by
  have hvalue := ofDecimal_decimal n
  rw [readNatural, takeDigits_append (fun _ => isDigit_of_mem_decimal) (by simp) h]
  cases hdigits : decimal n with
  | nil => exact absurd hdigits (decimal_ne_nil n)
  | cons d digits =>
    rw [hdigits] at hvalue
    dsimp only
    rw [hvalue]

theorem signed_ne_nil (n : Int) : signed n ≠ [] := by
  unfold signed
  split
  · exact List.cons_ne_nil _ _
  · exact decimal_ne_nil _

/-- A mark ends a numeral if it begins with something else than a digit. -/
theorem stops_mark {mark : String} (h : mark.toList.head?.any (fun c => !c.isDigit) = true)
    (rest : List Char) : Stops (mark.toList ++ rest) := by
  cases hmark : mark.toList with
  | nil =>
    rw [hmark] at h
    cases h
  | cons c cs =>
    rw [hmark] at h
    exact stops_cons (by simpa using h)

/-- A numeral is read back, whatever follows that is no digit. -/
theorem readInteger_signed (n : Int) {rest : List Char} (h : Stops rest) :
    readInteger (signed n ++ rest) = some (n, rest) := by
  unfold signed
  split
  · have hn : -(n.natAbs : Int) = n := by omega
    rw [List.cons_append, readInteger, readNatural_decimal _ h, Option.map_some]
    simp only [hn]
  · have hn : (n.natAbs : Int) = n := by omega
    have hread := readNatural_decimal n.natAbs h
    unfold readInteger
    split
    · rename_i cs hcs
      have hminus : '-' ∈ decimal n.natAbs := by
        cases hdigits : decimal n.natAbs with
        | nil => exact absurd hdigits (decimal_ne_nil _)
        | cons d digits =>
          rw [hdigits, List.cons_append] at hcs
          rw [(List.cons.inj hcs).1]
          exact List.mem_cons_self
      exact absurd (isDigit_of_mem_decimal hminus) (by decide)
    · rw [hread, Option.map_some]
      simp only [hn]

/-! ## Lists -/

/-- Values with a separator between them, at most `bound` of them. -/
def readSeparated {α : Type} (item : Reader α) (separator : String) : Nat → Reader (List α)
  | 0, _ => none
  | bound + 1, cs => do
    let (a, cs) ← item cs
    match after? separator cs with
    | some cs => (readSeparated item separator bound cs).map fun (as, rest) => (a :: as, rest)
    | none => some ([a], cs)

/-- Values are read back where each is read back before the separator and before the text that
follows the last, which does not begin with the separator. -/
theorem readSeparated_intercalate {ι α : Type} {item : Reader α} {separator : String}
    {text : ι → List Char} {value : ι → α} {rest : List Char}
    (hrest : after? separator rest = none) :
    ∀ (bound : Nat) {as : List ι}, as ≠ [] → as.length ≤ bound →
      (∀ a ∈ as, ∀ more, (separator.toList <+: more ∨ more = rest) →
        item (text a ++ more) = some (value a, more)) →
      readSeparated item separator bound (separator.toList.intercalate (as.map text) ++ rest) =
        some (as.map value, rest)
  | 0, a :: as, _, hbound, _ => by simp at hbound
  | bound + 1, [a], _, _, hitem => by
    have hread := hitem a List.mem_cons_self rest (.inr rfl)
    simp only [List.map_cons, List.map_nil, List.intercalate_singleton, readSeparated, hread, bind,
      Option.bind_some, hrest]
  | bound + 1, a :: b :: as, _, hbound, hitem => by
    have hread := hitem a List.mem_cons_self
      (separator.toList ++ (separator.toList.intercalate ((b :: as).map text) ++ rest))
      (.inl (List.prefix_append _ _))
    have ih := readSeparated_intercalate hrest bound (List.cons_ne_nil b as) (by simpa using hbound)
      fun c hc => hitem c (List.mem_cons_of_mem a hc)
    rw [List.map_cons, List.map_cons, List.intercalate_cons_cons, ← List.map_cons,
      List.append_assoc, List.append_assoc]
    simp only [readSeparated, hread, bind, Option.bind_some, after?_append, ih, Option.map_some]
    rfl

/-- Texts that are not empty are not more than the characters of all of them. -/
theorem length_le_intercalate (separator : List Char) {texts : List (List Char)}
    (h : ∀ text ∈ texts, text ≠ []) : texts.length ≤ (separator.intercalate texts).length := by
  induction texts with
  | nil => exact Nat.zero_le _
  | cons text texts ih =>
    obtain ⟨hne, htexts⟩ := List.forall_mem_cons.mp h
    have hlength : 0 < text.length := List.length_pos_iff.mpr hne
    cases texts with
    | nil =>
      rw [List.intercalate_singleton]
      exact hlength
    | cons other texts =>
      have := ih htexts
      rw [List.intercalate_cons_cons, List.length_append, List.length_append, List.length_cons]
      omega

/-- Values that are not written as nothing are all read back, at most one for each character. -/
theorem readSeparated_text {ι α : Type} {item : Reader α} {separator : String}
    {text : ι → List Char} {value : ι → α} {rest cs : List Char} {as : List ι}
    (hcs : cs = separator.toList.intercalate (as.map text) ++ rest)
    (hrest : after? separator rest = none) (hne : as ≠ []) (htext : ∀ a ∈ as, text a ≠ [])
    (hitem : ∀ a ∈ as, ∀ more, (separator.toList <+: more ∨ more = rest) →
      item (text a ++ more) = some (value a, more)) :
    readSeparated item separator cs.length cs = some (as.map value, rest) := by
  have hlength : as.length ≤ cs.length := by
    have hle := length_le_intercalate separator.toList (List.forall_mem_map.mpr htext)
    rw [List.length_map] at hle
    rw [hcs, List.length_append]
    exact hle.trans (Nat.le_add_right _ _)
  have hread := readSeparated_intercalate hrest cs.length hne hlength hitem
  rwa [← hcs] at hread

end ObservationQuery.Sql
