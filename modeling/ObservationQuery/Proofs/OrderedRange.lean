import ObservationQuery.Proofs.Compile.Time
import ObservationQuery.Proofs.Period
import ObservationQuery.Proofs.Sql.Timestamp

/-!
# Ranges are written in order

The two bounds of a range are cut to seconds and made infinite one by one, after the range has been
checked at full precision. The order of the instants is that of the bounds nevertheless.

* `Instant.wholeSecond` — an instant without its fraction.
* `Bound.ofText?` — the bound that a text names, a leap second being one second after the second
  before it; `Bound.value` — its place among all bounds.
* `TimeTarget.readBounds` — the bounds in a condition on a target.

Principal results: `Bound.value_written_le` — writing bounds keeps the order of instants;
`resolve_ordered` — a range is rejected exactly if it ends before it begins, and what is written for
any other has its bounds in order.
-/

namespace ObservationQuery

open Sql

/-! ## Instants to the second -/

namespace Instant

/-- The instant without its fraction; a leap second is kept. -/
def wholeSecond (t : Instant) : Instant :=
  ⟨t.seconds, t.nanos / 1000000000 * 1000000000, t.firstSecond_le, t.le_lastSecond,
    by have := t.nanos_lt; omega, fun h => t.leap_ends_minute (by omega)⟩

/-- Without its fraction an instant is written as the instant without its fraction. -/
theorem text_wholeSecond (t : Instant) : t.wholeSecond.text = t.secondsText := by
  have hnanos : t.wholeSecond.nanos = t.nanos / 1000000000 * 1000000000 := rfl
  have hsecond : t.wholeSecond.nanos / 1000000000 = t.nanos / 1000000000 := by omega
  have hclock : t.wholeSecond.clockText = t.clockText := by
    rw [clockText, clockText, hsecond]
    rfl
  have hfraction : t.wholeSecond.fractionText = [] := by
    rw [fractionText, hnanos, Nat.mul_mod_left]
    rfl
  rw [text, secondsText, stem, stem, hclock, hfraction, List.append_nil]
  rfl

end Instant

namespace Sql.Bound

/-! ## Bounds -/

/-- The bound that a text names: a date-time on a whole second, or an infinite one. A leap second is
one second after the second before it. -/
def ofText? (text : String) : Option Bound :=
  if text = "-infinity" then some past
  else if text = "infinity" then some future
  else (Instant.read? text).bind fun t =>
    if t.nanos % 1000000000 = 0 then some (second (t.seconds + (t.nanos / 1000000000 : Nat)))
    else none

/-- The place of a bound: an infinite one is before or after all others. -/
def value : Bound → WithBot (WithTop Int)
  | past => ⊥
  | second s => ((s : WithTop Int) : WithBot (WithTop Int))
  | future => ((⊤ : WithTop Int) : WithBot (WithTop Int))

/-- The bound that is written for an instant. -/
def written (t : Instant) : Bound :=
  if t.seconds < firstFiniteSecond then past
  else if lastFiniteSecond < t.seconds then future
  else second (t.seconds + (t.nanos / 1000000000 : Nat))

/-- The bound written for an instant is read back. -/
theorem ofText?_boundText (t : Instant) : ofText? (boundText t) = some (written t) := by
  unfold boundText written
  split
  · rfl
  split
  · rfl
  · have hzero : t.wholeSecond.nanos % 1000000000 = 0 := Nat.mul_mod_left _ _
    have hsecond : t.wholeSecond.nanos / 1000000000 = t.nanos / 1000000000 :=
      Nat.mul_div_cancel _ (by decide)
    rw [ofText?, if_neg t.secondsText_ne.1, if_neg t.secondsText_ne.2, ← t.text_wholeSecond,
      Instant.read?_text, Option.bind_some, if_pos hzero, hsecond]
    rfl

/-- **Writing bounds keeps the order of instants.** -/
theorem value_written_le {a b : Instant} (h : a ≤ b) : (written a).value ≤ (written b).value := by
  rw [Instant.le_def] at h
  have ha := a.nanos_lt
  unfold written
  split
  · exact bot_le
  split
  · have hb : lastFiniteSecond < b.seconds := by omega
    have hle : firstFiniteSecond ≤ lastFiniteSecond := by decide
    rw [if_neg (by omega), if_pos hb]
  · rw [if_neg (by omega)]
    split
    · exact WithBot.coe_le_coe.mpr le_top
    · refine WithBot.coe_le_coe.mpr (WithTop.coe_le_coe.mpr ?_)
      omega

end Sql.Bound

/-! ## Conditions -/

namespace Sql

/-- The bound that a literal names. -/
def readWritten : Reader Bound := fun cs => do
  let (text, cs) ← readLiteral cs
  (Bound.ofText? text).map (·, cs)

/-- The bounds of the closed range that a literal names. -/
def readInterval (text : String) : Option (Bound × Bound) := do
  let cs ← after? "[" text.toList
  let lower ← Bound.ofText? (String.ofList (cs.takeWhile (· ≠ ',')))
  let cs ← after? "," (cs.dropWhile (· ≠ ','))
  if cs.getLast? = some ']' then (Bound.ofText? (String.ofList cs.dropLast)).map (lower, ·)
  else none

end Sql

/-- The bounds of the range that a condition compares a target with. -/
def TimeTarget.readBounds (target : TimeTarget) (text : String) : Option (Bound × Bound) :=
  match target with
  | moment time => do
    let (range, cs) ← readRange readWritten readWritten text.toList
    let cs ← after? (" @> " ++ time.text) cs
    if cs.isEmpty then some (range.lower, range.upper) else none
  | period start stop _ => do
    let cs ← after? ("tstzrange(" ++ (start.cast .timestamptz).text ++ "," ++
      (stop.cast .timestamptz).text ++ ")") text.toList
    let (_, cs) ← readOperator cs
    let (literal, cs) ← readLiteral cs
    let cs ← after? "::tstzrange" cs
    if cs.isEmpty then readInterval literal else none

namespace Sql

theorem readWritten_quote (t : Instant) {rest : List Char} (hrest : rest.head? ≠ some '\'') :
    readWritten ((quote (boundText t)).toList ++ rest) = some (.written t, rest) := by
  simp only [readWritten, readLiteral_quote _ hrest, bind, Option.bind_some,
    Bound.ofText?_boundText, Option.map_some]

theorem readInterval_text (first last : Instant) :
    readInterval ("[" ++ boundText first ++ "," ++ boundText last ++ "]") =
      some (.written first, .written last) := by
  let upper : List Char := (boundText last).toList ++ [']']
  have htext : ("[" ++ boundText first ++ "," ++ boundText last ++ "]").toList =
      "[".toList ++ ((boundText first).toList ++ (",".toList ++ upper)) := by
    simp [upper]
  have hcomma : ∀ c ∈ (boundText first).toList, decide (c ≠ ',') = true := by
    intro c hc
    apply decide_eq_true
    rintro rfl
    exact notMem_boundText (by decide) first hc
  have hlower : ((boundText first).toList ++ (",".toList ++ upper)).takeWhile (· ≠ ',') =
      (boundText first).toList := by
    rw [List.takeWhile_append_of_pos hcomma]
    simp
  have hrest : ((boundText first).toList ++ (",".toList ++ upper)).dropWhile (· ≠ ',') =
      ",".toList ++ upper := by
    rw [List.dropWhile_append_of_pos hcomma]
    rfl
  have hend : upper.getLast? = some ']' := List.getLast?_concat
  rw [readInterval, htext]
  simp only [after?_append, hlower, hrest, bind, Option.bind_some, String.ofList_toList,
    Bound.ofText?_boundText, if_pos hend]
  rw [List.dropLast_concat, String.ofList_toList, Bound.ofText?_boundText, Option.map_some]

end Sql

/-- A criterion is rejected exactly if it is a range that ends before it begins. -/
theorem TimeCriterion.resolve_eq_error_iff {filter : TimeFilter} {target : TimeTarget}
    {group : List Expr} : (∃ e, resolve filter target group = .error e) ↔
      ∃ first last relation, filter = .range first last relation ∧
        (last.seconds < first.seconds ∨
          last.seconds = first.seconds ∧ last.nanos < first.nanos) := by
  cases filter with
  | latest =>
    refine iff_of_false ?_ ?_
    · rintro ⟨e, h⟩
      cases h
    · rintro ⟨first, last, relation, h, -⟩
      cases h
  | range first last relation =>
    have hlt : ¬ first ≤ last ↔ last.seconds < first.seconds ∨
        last.seconds = first.seconds ∧ last.nanos < first.nanos := by
      rw [Instant.le_def]
      omega
    rw [resolve]
    constructor
    · rintro ⟨e, h⟩
      split at h
      · cases h
      · rename_i hle
        exact ⟨first, last, relation, rfl, hlt.mp hle⟩
    · rintro ⟨_, _, _, ⟨⟩, h⟩
      rw [if_neg (hlt.mpr h)]
      exact ⟨_, rfl⟩

namespace TimeTarget

/-- The condition on a target is written with the bounds that are written for its instants. -/
theorem readBounds_relates (target : TimeTarget) (first last : Instant)
    (relation : PeriodRelation) :
    target.readBounds (target.relates first last relation).text =
      some (.written first, .written last) := by
  cases target with
  | moment time =>
    have htext : (Predicate.liesWithin time first last).text.toList =
        "tstzrange(".toList ++ ((quote (boundText first)).toList ++ (",".toList ++
          ((quote (boundText last)).toList ++ (", '[]')".toList ++
            (" @> " ++ time.text).toList)))) := by
      have hsplit : ", '[]') @> ".toList = ", '[]')".toList ++ " @> ".toList := by decide
      unfold Predicate.text
      simp only [String.toList_append, List.append_assoc, hsplit]
    show readBounds _ (Predicate.liesWithin time first last).text = _
    rw [readBounds, htext, readRange_closed (readWritten_quote first) (readWritten_quote last)]
    simp only [bind, Option.bind_some, after?_self]
    rfl
  | period start stop newest =>
    have hinterval := readInterval_text first last
    have htext := toList_text_periodRelates start stop relation first last
    generalize "[" ++ boundText first ++ "," ++ boundText last ++ "]" = literal at hinterval htext
    have hfront : ∀ rest, after? ("tstzrange(" ++ (start.cast .timestamptz).text ++ "," ++
        (stop.cast .timestamptz).text ++ ")") ("tstzrange(".toList ++
          ((start.cast .timestamptz).text.toList ++ (",".toList ++
            ((stop.cast .timestamptz).text.toList ++ (")".toList ++ rest))))) = some rest := by
      intro rest
      simpa only [String.toList_append, List.append_assoc] using
        after?_append ("tstzrange(" ++ (start.cast .timestamptz).text ++ "," ++
          (stop.cast .timestamptz).text ++ ")") rest
    have hliteral : readLiteral ((quote literal).toList ++ "::tstzrange".toList) =
        some (literal, "::tstzrange".toList) := readLiteral_quote literal (by simp)
    show readBounds _ (Predicate.periodRelates start stop relation first last).text = _
    rw [readBounds, htext]
    simp only [bind]
    rw [hfront, Option.bind_some, readOperator_operator, Option.bind_some]
    dsimp only
    rw [hliteral, Option.bind_some]
    dsimp only
    rw [after?_self, Option.bind_some, if_pos List.isEmpty_nil]
    exact hinterval

end TimeTarget

/-! ## Ranges -/

/-- **The bounds written for two instants are in their order. A criterion is rejected exactly if it
is a range that ends before it begins, and what is written for any other range has the bounds that
are written for its instants, the lower one not after the upper one.** -/
theorem resolve_ordered (target : TimeTarget) (group : List Expr) :
    (∀ a b : Instant, a ≤ b → ∃ lower upper, Bound.ofText? (boundText a) = some lower ∧
      Bound.ofText? (boundText b) = some upper ∧ lower.value ≤ upper.value) ∧
    (∀ filter, (∃ e, TimeCriterion.resolve filter target group = .error e) ↔
      ∃ first last relation, filter = .range first last relation ∧
        (last.seconds < first.seconds ∨
          last.seconds = first.seconds ∧ last.nanos < first.nanos)) ∧
    ∀ first last relation criterion,
      TimeCriterion.resolve (.range first last relation) target group = .ok criterion →
        ∃ c lower upper, criterion = .range c ∧ target.readBounds c.text = some (lower, upper) ∧
          Bound.ofText? (boundText first) = some lower ∧
          Bound.ofText? (boundText last) = some upper ∧ lower.value ≤ upper.value := by
  refine ⟨fun a b hle => ?_, fun filter => ?_, fun first last relation criterion h => ?_⟩
  · exact ⟨_, _, Bound.ofText?_boundText a, Bound.ofText?_boundText b, Bound.value_written_le hle⟩
  · exact TimeCriterion.resolve_eq_error_iff
  · obtain ⟨h, -⟩ | ⟨_, _, _, ⟨⟩, hle, rfl⟩ := TimeFilter.resolve_eq_ok _ h
    · cases h
    · exact ⟨_, _, _, rfl, target.readBounds_relates first last relation,
        Bound.ofText?_boundText first, Bound.ofText?_boundText last, Bound.value_written_le hle⟩

/-- From the middle of the leap second that ends 2016 to the start of 2017 both bounds are the start
of 2017. -/
theorem resolve_ordered_leap_second :
    let first : Instant := ⟨1483228799, 1500000000, by decide, by decide, by decide, by decide⟩
    let last : Instant := ⟨1483228800, 0, by decide, by decide, by decide, by decide⟩
    let target : TimeTarget := .moment (.column "obs" "phenomenonTime")
    ∃ c lower upper, TimeCriterion.resolve (.range first last .intersects) target [] =
        .ok (.range c) ∧ target.readBounds c.text = some (lower, upper) ∧
      lower.value ≤ upper.value ∧ lower = .second 1483228800 := by
  intro first last target
  obtain ⟨criterion, h⟩ : ∃ criterion,
      TimeCriterion.resolve (.range first last .intersects) target [] = .ok criterion := ⟨_, rfl⟩
  obtain ⟨-, -, hbounds⟩ := resolve_ordered target []
  obtain ⟨c, lower, upper, rfl, hread, hlower, -, hle⟩ := hbounds first last .intersects criterion h
  rw [Bound.ofText?_boundText] at hlower
  exact ⟨c, lower, upper, h, hread, hle, (Option.some.inj hlower).symm.trans (by decide)⟩

end ObservationQuery
