import Mathlib
import ObservationQuery.Proofs.Sql.Reading
import ObservationQuery.Sql.Bound

/-!
# Reading ranges of times

A range of times is written by its two bounds. Whether they belong to it is said by an argument of
the constructor, which otherwise takes the lower bound in and leaves the upper one out, or by the
brackets of a range literal.

* `Bound` — a second, or infinitely early or late; `Bound.read?` — the bound that a text names.
* `Range` — two bounds, and whether they belong to the range; `Range.Contains` — which times lie in
  it, and `Range.instants` — the set of these among the real instants.
* `readRange`, `Range.ofLiteral?` — the range that a call of the constructor and a literal name.

Principal results: `Bound.read?_boundText` — the bound written for an instant is read as its second,
infinitely early or late outside the finite seconds; `readRange_halfOpen`, `readRange_closed`,
`Range.ofLiteral?_text` — the ranges that are written are read back.
-/

namespace ObservationQuery

open Text

/-! ## Instants to the second -/

namespace Instant

/-- The start of the second in which an instant lies. -/
def floor (t : Instant) : Instant :=
  ⟨t.seconds, 0, t.firstSecond_le, t.le_lastSecond, by decide, fun h => absurd h (by decide)⟩

/-- Without the fraction, an instant outside leap seconds is written like the start of its
second. -/
theorem secondsText_eq {t : Instant} (h : t.nanos < 1000000000) : t.secondsText = t.floor.text := by
  have hseconds : t.floor.secondOfDay = t.secondOfDay := rfl
  have hnanos : t.floor.nanos = 0 := rfl
  have hclock : t.floor.clockText = t.clockText := by
    rw [clockText, clockText, hseconds, hnanos, Nat.div_eq_of_lt h, Nat.zero_div]
  have hfraction : t.floor.fractionText = [] := rfl
  rw [secondsText, text, hfraction, stem, stem, hclock, List.append_nil]
  rfl

theorem mem_secondsText {t : Instant} {c : Char} (h : c ∈ t.secondsText.toList) :
    c.isDigit = true ∨ c ∈ ['-', '+', ':', 'T', 'Z'] := by
  have hdigit : ∀ {width n}, c ∈ padded width n → c.isDigit = true :=
    fun hc => isDigit_of_mem_padded hc
  have hyear : c ∈ yearText t.date.year → c.isDigit = true ∨ c ∈ ['-', '+', ':', 'T', 'Z'] := by
    intro hc
    unfold yearText at hc
    split at hc
    · exact .inl (hdigit hc)
    · rcases List.mem_cons.mp hc with rfl | hc
      · right
        split <;> decide
      · exact .inl (hdigit hc)
  simp only [secondsText, String.toList_ofList, stem, Date.text, clockText, List.mem_append,
    List.mem_cons, List.not_mem_nil, or_false] at h
  grind

end Instant

namespace Sql

/-- What is written for a bound has no point, no comma and no quote. -/
theorem notMem_boundText {c : Char} (hc : c ∈ ['.', ',', '\'']) (t : Instant) :
    c ∉ (boundText t).toList := by
  have hother : ∀ c ∈ ['.', ',', '\''], c.isDigit = false ∧ c ∉ ['-', '+', ':', 'T', 'Z'] ∧
      c ∉ "-infinity".toList ∧ c ∉ "infinity".toList := by simp [Char.isDigit]
  obtain ⟨hdigit, hmark, hpast, hfuture⟩ := hother c hc
  unfold boundText
  split
  · exact hpast
  split
  · exact hfuture
  · intro h
    rcases Instant.mem_secondsText h with h | h
    · exact Bool.false_ne_true (hdigit.symm.trans h)
    · exact hmark h

theorem notMem_quote_boundText (t : Instant) : '.' ∉ (quote (boundText t)).toList := by
  rw [toList_quote, List.mem_append, List.mem_cons, List.mem_flatMap]
  rintro ((hquote | ⟨c, hc, hescape⟩) | hquote)
  · cases hquote
  · unfold escapeQuote at hescape
    split at hescape
    · exact absurd hescape (by decide)
    · rw [← List.mem_singleton.mp hescape] at hc
      exact notMem_boundText (by decide) t hc
  · exact absurd hquote (by decide)

/-! ## Bounds -/

/-- The bound of a range of times. -/
inductive Bound where
  /-- Before all times. -/
  | past
  /-- The start of a second. -/
  | second (s : Int)
  /-- After all times. -/
  | future
  deriving DecidableEq, Repr

namespace Bound

/-- The bound that a text names: a date-time on a whole second, or an infinite one. -/
def read? (text : String) : Option Bound :=
  if text = "-infinity" then some past
  else if text = "infinity" then some future
  else (Instant.read? text).bind fun t => if t.nanos = 0 then some (second t.seconds) else none

/-- The second of an instant, or an infinite bound outside the finite seconds. -/
def ofInstant (t : Instant) : Bound :=
  if t.seconds < firstFiniteSecond then past
  else if lastFiniteSecond < t.seconds then future
  else second t.seconds

/-- **The bound written for an instant outside leap seconds is read as its second.** -/
theorem read?_boundText {t : Instant} (h : t.nanos < 1000000000) :
    read? (boundText t) = some (ofInstant t) := by
  unfold boundText ofInstant
  split
  · rfl
  split
  · rfl
  · have hread : Instant.read? t.secondsText = some t.floor := by
      rw [Instant.secondsText_eq h, Instant.read?_text]
    have hpast : t.secondsText ≠ "-infinity" := by
      intro heq
      rw [heq] at hread
      cases hread
    have hfuture : t.secondsText ≠ "infinity" := by
      intro heq
      rw [heq] at hread
      cases hread
    rw [read?, if_neg hpast, if_neg hfuture, hread]
    rfl

section
variable {α : Type} [IntCast α] [LE α] [LT α]

/-- The bound lies before a time; where it is included, it may be that time. -/
def Below (x : α) (included : Bool) : Bound → Prop
  | past => True
  | second s => if included then (s : α) ≤ x else (s : α) < x
  | future => False

/-- The bound lies after a time; where it is included, it may be that time. -/
def Above (x : α) (included : Bool) : Bound → Prop
  | past => False
  | second s => if included then x ≤ (s : α) else x < (s : α)
  | future => True

end

theorem below_ofInstant {t : Instant} {s : Int}
    (hs : s ∈ Set.Icc firstFiniteSecond lastFiniteSecond) :
    (ofInstant t).Below s true ↔ t.seconds ≤ s := by
  obtain ⟨hfirst, hlast⟩ := hs
  unfold ofInstant
  split
  · rename_i hpast
    exact iff_of_true trivial (hpast.le.trans hfirst)
  split
  · rename_i hfuture
    exact iff_of_false id (hlast.trans_lt hfuture).not_ge
  · exact Iff.rfl

theorem above_ofInstant {t : Instant} {s : Int}
    (hs : s ∈ Set.Icc firstFiniteSecond lastFiniteSecond) :
    (ofInstant t).Above s true ↔ s ≤ t.seconds := by
  obtain ⟨hfirst, hlast⟩ := hs
  unfold ofInstant
  split
  · rename_i hpast
    exact iff_of_false id (hpast.trans_le hfirst).not_ge
  split
  · rename_i hfuture
    exact iff_of_true trivial (hlast.trans hfuture.le)
  · exact Iff.rfl

instance (x : Int) (included : Bool) : (b : Bound) → Decidable (b.Below x included)
  | past => inferInstanceAs (Decidable True)
  | second s => inferInstanceAs (Decidable (if included then s ≤ x else s < x))
  | future => inferInstanceAs (Decidable False)

instance (x : Int) (included : Bool) : (b : Bound) → Decidable (b.Above x included)
  | past => inferInstanceAs (Decidable False)
  | second s => inferInstanceAs (Decidable (if included then x ≤ s else x < s))
  | future => inferInstanceAs (Decidable True)

end Bound

/-! ## Ranges -/

/-- A range of times. -/
structure Range where
  lower : Bound
  upper : Bound
  lowerIncluded : Bool
  upperIncluded : Bool
  deriving DecidableEq, Repr

namespace Range

/-- A time lies in the range. -/
def Contains {α : Type} [IntCast α] [LE α] [LT α] (r : Range) (x : α) : Prop :=
  r.lower.Below x r.lowerIncluded ∧ r.upper.Above x r.upperIncluded

instance (r : Range) (s : Int) : Decidable (r.Contains s) :=
  inferInstanceAs (Decidable (_ ∧ _))

/-- Between the bounds written for two instants lie those finite seconds that lie between their
seconds: an infinite bound leaves out no more and no less. -/
theorem contains_ofInstant {first last : Instant} {s : Int}
    (hs : s ∈ Set.Icc firstFiniteSecond lastFiniteSecond) :
    (⟨.ofInstant first, .ofInstant last, true, true⟩ : Range).Contains s ↔
      first.seconds ≤ s ∧ s ≤ last.seconds :=
  and_congr (Bound.below_ofInstant hs) (Bound.above_ofInstant hs)

/-- The real instants in the range. -/
def instants (r : Range) : Set ℝ := {x | r.Contains x}

/-- Whether the bounds belong to a range, as its brackets say. -/
def edges? (brackets : String) : Option (Bool × Bool) :=
  if brackets = "[]" then some (true, true)
  else if brackets = "[)" then some (true, false)
  else if brackets = "(]" then some (false, true)
  else if brackets = "()" then some (false, false)
  else none

/-- The range that a literal names: its bounds in brackets, with a comma between. -/
def ofLiteral? (text : String) : Option Range :=
  match text.toList with
  | [] => none
  | first :: cs =>
    match cs.dropWhile (· ≠ ',') with
    | [] => none
    | _ :: upper => do
      let last ← upper.getLast?
      let (lowerIncluded, upperIncluded) ← edges? (String.ofList [first, last])
      let lower ← Bound.read? (String.ofList (cs.takeWhile (· ≠ ',')))
      let upper ← Bound.read? (String.ofList upper.dropLast)
      some ⟨lower, upper, lowerIncluded, upperIncluded⟩

end Range

/-- The bound that a literal names. -/
def readBound : Reader Bound := fun cs => do
  let (text, cs) ← readLiteral cs
  (Bound.read? text).map (·, cs)

/-- The range that a call of the constructor names, given how its arguments are read. -/
def readRange (lower upper : Reader Bound) : Reader Range := fun cs => do
  let cs ← after? "tstzrange(" cs
  let (lower, cs) ← lower cs
  let cs ← after? "," cs
  let (upper, cs) ← upper cs
  match after? ", " cs with
  | some cs =>
    let (brackets, cs) ← readLiteral cs
    let (lowerIncluded, upperIncluded) ← Range.edges? brackets
    let cs ← after? ")" cs
    some (⟨lower, upper, lowerIncluded, upperIncluded⟩, cs)
  | none =>
    let cs ← after? ")" cs
    some (⟨lower, upper, true, false⟩, cs)

/-! ## Reading what is written -/

theorem readBound_quote {t : Instant} (h : t.nanos < 1000000000) {rest : List Char}
    (hrest : rest.head? ≠ some '\'') :
    readBound ((quote (boundText t)).toList ++ rest) = some (.ofInstant t, rest) := by
  simp only [readBound, readLiteral_quote _ hrest, bind, Option.bind_some,
    Bound.read?_boundText h, Option.map_some]

section
variable {lower upper : Reader Bound} {first last : Bound} {firstText lastText : List Char}
  (hlower : ∀ {rest : List Char}, rest.head? ≠ some '\'' →
    lower (firstText ++ rest) = some (first, rest))
  (hupper : ∀ {rest : List Char}, rest.head? ≠ some '\'' →
    upper (lastText ++ rest) = some (last, rest))
include hlower hupper

/-- **A call with two arguments is read as the range without its upper bound.** -/
theorem readRange_halfOpen (rest : List Char) :
    readRange lower upper ("tstzrange(".toList ++ (firstText ++ (",".toList ++ (lastText ++
      (")".toList ++ rest))))) = some (⟨first, last, true, false⟩, rest) := by
  have hno : after? ", " (")".toList ++ rest) = none := after?_eq_none (by simp)
  simp only [readRange, after?_append, bind, Option.bind_some]
  rw [hlower (by simp), Option.bind_some]
  simp only [after?_append, Option.bind_some]
  rw [hupper (by simp), Option.bind_some]
  simp only [hno, after?_append, Option.bind_some]

/-- **A call that takes in both bounds is read as the closed range.** -/
theorem readRange_closed (rest : List Char) :
    readRange lower upper ("tstzrange(".toList ++ (firstText ++ (",".toList ++ (lastText ++
      (", '[]')".toList ++ rest))))) = some (⟨first, last, true, true⟩, rest) := by
  have hbrackets : readLiteral ("'[]'".toList ++ (")".toList ++ rest)) =
      some ("[]", ")".toList ++ rest) := readLiteral_quote "[]" (by simp)
  have hedges : Range.edges? "[]" = some (true, true) := by decide
  simp only [readRange, after?_append, bind, Option.bind_some]
  rw [hlower (by simp), Option.bind_some]
  simp only [after?_append, Option.bind_some]
  rw [hupper (by simp), Option.bind_some,
    show ", '[]')".toList ++ rest = ", ".toList ++ ("'[]'".toList ++ (")".toList ++ rest)) from rfl]
  simp only [after?_append, hbrackets, hedges, Option.bind_some]

end

/-- **A range literal is read as the closed range between its instants.** -/
theorem Range.ofLiteral?_text {first last : Instant} (hfirst : first.nanos < 1000000000)
    (hlast : last.nanos < 1000000000) :
    ofLiteral? ("[" ++ boundText first ++ "," ++ boundText last ++ "]") =
      some ⟨.ofInstant first, .ofInstant last, true, true⟩ := by
  have hcomma : ∀ c ∈ (boundText first).toList, decide (c ≠ ',') = true := by
    rintro c hc
    refine decide_eq_true ?_
    rintro rfl
    exact notMem_boundText (by decide) first hc
  have htext : ("[" ++ boundText first ++ "," ++ boundText last ++ "]").toList =
      '[' :: ((boundText first).toList ++ (',' :: ((boundText last).toList ++ [']']))) := by
    simp
  have hupper : ((boundText first).toList ++ (',' :: ((boundText last).toList ++ [']']))).dropWhile
      (· ≠ ',') = ',' :: ((boundText last).toList ++ [']']) := by
    rw [List.dropWhile_append_of_pos hcomma]
    rfl
  have hlower : ((boundText first).toList ++ (',' :: ((boundText last).toList ++ [']']))).takeWhile
      (· ≠ ',') = (boundText first).toList := by
    rw [List.takeWhile_append_of_pos hcomma]
    simp
  have hedges : edges? (String.ofList ['[', ']']) = some (true, true) := by decide
  rw [ofLiteral?, htext]
  simp only [hupper, hlower, List.getLast?_concat, List.dropLast_concat, hedges, bind,
    Option.bind_some, String.ofList_toList, Bound.read?_boundText hfirst,
    Bound.read?_boundText hlast]

end Sql

end ObservationQuery
