import ObservationQuery.Proofs.Sql.Range
import ObservationQuery.Sql.Predicate

/-!
# Conditions on periods

A stored period is compared with the interval of a filter as sets of real instants. The condition
takes the stored period without its end, so it can miss what depends on this instant alone.

* `PeriodRelation.Relates` — what a relation says of the two sets.
* `PeriodRelation.NeedsEnd` — the relation between a closed period and the interval depends on the
  end of the period.
* `Sql.readComparison` — what the text of a condition says, given the times that its two arguments
  stand for.

Principal result: `readComparison_periodRelates` — the condition holds of a closed period where the
relation does and does not depend on the end of the period.
-/

namespace ObservationQuery

/-! ## Relations between sets -/

namespace PeriodRelation

/-- A stored period relates to an interval. -/
def Relates {α : Type} (stored interval : Set α) : PeriodRelation → Prop
  | contains => interval ⊆ stored
  | intersects => (stored ∩ interval).Nonempty
  | equals => stored = interval

/-- If the period from `b` to `e` relates to the interval from `x` to `y`, then only because of the
instant `e`. -/
def NeedsEnd {α : Type} (b e x y : α) : PeriodRelation → Prop
  | contains => e = y
  | intersects => e = x ∨ e = b
  | equals => True

/-- A period without its end relates to an interval where the closed period does and does not need
its end. -/
theorem relates_Ico {α : Type} [LinearOrder α] [DenselyOrdered α] {b e x y : α} (hbe : b ≤ e)
    (hxy : x ≤ y) (relation : PeriodRelation) :
    relation.Relates (Set.Ico b e) (Set.Icc x y) ↔
      relation.Relates (Set.Icc b e) (Set.Icc x y) ∧ ¬ relation.NeedsEnd b e x y := by
  cases relation with
  | contains =>
    show Set.Icc x y ⊆ Set.Ico b e ↔ Set.Icc x y ⊆ Set.Icc b e ∧ ¬ e = y
    rw [Set.Icc_subset_Icc_iff hxy]
    constructor
    · intro h
      exact ⟨⟨(h ⟨le_rfl, hxy⟩).1, (h ⟨hxy, le_rfl⟩).2.le⟩, (h ⟨hxy, le_rfl⟩).2.ne'⟩
    · rintro ⟨⟨hb, he⟩, hne⟩ z ⟨hx, hy⟩
      exact ⟨hb.trans hx, hy.trans_lt (he.lt_of_ne (Ne.symm hne))⟩
  | intersects =>
    show (Set.Ico b e ∩ Set.Icc x y).Nonempty ↔
      (Set.Icc b e ∩ Set.Icc x y).Nonempty ∧ ¬ (e = x ∨ e = b)
    constructor
    · rintro ⟨z, ⟨hb, he⟩, hx, hy⟩
      refine ⟨⟨z, ⟨hb, he.le⟩, hx, hy⟩, ?_⟩
      rintro (rfl | rfl)
      · exact absurd he hx.not_gt
      · exact absurd he hb.not_gt
    · rintro ⟨⟨z, ⟨hb, he⟩, hx, hy⟩, hne⟩
      obtain ⟨hex, heb⟩ := not_or.mp hne
      -- The later of the two starts is an instant of both before `e`.
      have hbe' : b < e := hbe.lt_of_ne (Ne.symm heb)
      have hxe : x < e := (hx.trans he).lt_of_ne (Ne.symm hex)
      exact ⟨max b x, ⟨le_max_left _ _, max_lt hbe' hxe⟩, le_max_right _ _,
        max_le (hb.trans hy) hxy⟩
  | equals =>
    show Set.Ico b e = Set.Icc x y ↔ Set.Icc b e = Set.Icc x y ∧ ¬ True
    refine iff_of_false (fun h => ?_) fun h => h.2 trivial
    have hy : y ∈ Set.Ico b e := h ▸ ⟨hxy, le_rfl⟩
    -- Something between `y` and `e` lies in the period only.
    obtain ⟨z, hyz, hze⟩ := exists_between hy.2
    have hz : z ∈ Set.Icc x y := h ▸ ⟨hy.1.trans hyz.le, hze⟩
    exact absurd hz.2 hyz.not_ge

end PeriodRelation

/-! ## Reading conditions -/

namespace Sql

/-- The times in `[b, e)`. -/
theorem instants_halfOpen (b e : Int) :
    Range.instants ⟨.second b, .second e, true, false⟩ = Set.Ico (b : ℝ) e := by
  ext x
  simp [Range.instants, Range.Contains, Bound.Below, Bound.Above]

/-- The times in `[b, e]`. -/
theorem instants_closed (b e : Int) :
    Range.instants ⟨.second b, .second e, true, true⟩ = Set.Icc (b : ℝ) e := by
  ext x
  simp [Range.instants, Range.Contains, Bound.Below, Bound.Above]

/-- The time that an expression stands for. -/
def readValue (e : Expr) (second : Int) : Reader Bound := fun cs =>
  (after? e.text cs).map fun rest => (.second second, rest)

/-- The relation of an operator between two ranges. -/
def readOperator : Reader (Set ℝ → Set ℝ → Prop)
  | ' ' :: '@' :: '>' :: ' ' :: cs => some (fun left right => right ⊆ left, cs)
  | ' ' :: '&' :: '&' :: ' ' :: cs => some (fun left right => (left ∩ right).Nonempty, cs)
  | ' ' :: '=' :: ' ' :: cs => some (fun left right => left = right, cs)
  | _ => none

/-- What a comparison of a call of the constructor with a range literal says, given how the
arguments of the call are read. -/
def readComparison (lower upper : Reader Bound) (text : String) : Option Prop := do
  let (left, cs) ← readRange lower upper text.toList
  let (operator, cs) ← readOperator cs
  let (literal, cs) ← readLiteral cs
  let right ← Range.ofLiteral? literal
  let cs ← after? "::tstzrange" cs
  if cs.isEmpty then some (operator left.instants right.instants) else none

/-- An operator is read as the relation that it is written for. -/
theorem readOperator_operator (relation : PeriodRelation) (rest : List Char) :
    readOperator ((" " ++ relation.operator ++ " ").toList ++ rest) =
      some (fun left right => relation.Relates left right, rest) := by
  cases relation <;> simp [PeriodRelation.operator, readOperator] <;> rfl

theorem Bound.ofInstant_of_mem {t : Instant}
    (h : t.seconds ∈ Set.Icc firstFiniteSecond lastFiniteSecond) :
    ofInstant t = .second t.seconds := by
  rw [ofInstant, if_neg (not_lt.mpr h.1), if_neg (not_lt.mpr h.2)]

theorem toList_text_periodRelates (start stop : Expr) (relation : PeriodRelation)
    (first last : Instant) :
    (Predicate.periodRelates start stop relation first last).text.toList =
      "tstzrange(".toList ++ ((start.cast .timestamptz).text.toList ++ (",".toList ++
        ((stop.cast .timestamptz).text.toList ++ (")".toList ++
          ((" " ++ relation.operator ++ " ").toList ++
            ((quote ("[" ++ boundText first ++ "," ++ boundText last ++ "]")).toList ++
              "::tstzrange".toList)))))) := by
  have hspace : ") ".toList = ")".toList ++ " ".toList := by decide
  unfold Predicate.text
  simp only [String.toList_append, List.append_assoc, hspace]

theorem readValue_text (expr : Expr) (n : Int) (rest : List Char) :
    readValue expr n (expr.text.toList ++ rest) = some (.second n, rest) := by
  rw [readValue, after?_append, Option.map_some]

/-- A condition on a period compares the period without its end with the closed interval. -/
theorem readComparison_halfOpen (start stop : Expr) (relation : PeriodRelation) (b e : Int)
    {first last : Instant} (hfirst : first.nanos < 1000000000) (hlast : last.nanos < 1000000000)
    (hfirstFinite : first.seconds ∈ Set.Icc firstFiniteSecond lastFiniteSecond)
    (hlastFinite : last.seconds ∈ Set.Icc firstFiniteSecond lastFiniteSecond) :
    readComparison (readValue (start.cast .timestamptz) b) (readValue (stop.cast .timestamptz) e)
        (Predicate.periodRelates start stop relation first last).text =
      some (relation.Relates (Set.Ico (b : ℝ) e) (Set.Icc (first.seconds : ℝ) last.seconds)) := by
  have hliteral := readLiteral_quote ("[" ++ boundText first ++ "," ++ boundText last ++ "]")
    (show "::tstzrange".toList.head? ≠ some '\'' by simp)
  rw [readComparison, toList_text_periodRelates, readRange_halfOpen
    (fun _ => readValue_text (start.cast .timestamptz) b _)
    (fun _ => readValue_text (stop.cast .timestamptz) e _)]
  simp only [bind, Option.bind_some, readOperator_operator]
  rw [hliteral, Option.bind_some]
  dsimp only
  rw [Range.ofLiteral?_text hfirst hlast, Option.bind_some, after?_self, Option.bind_some,
    if_pos List.isEmpty_nil, Bound.ofInstant_of_mem hfirstFinite,
    Bound.ofInstant_of_mem hlastFinite, instants_halfOpen, instants_closed]

/-- **The condition on a period holds where the closed period relates to the closed interval of the
filter and does not need its end for it.** -/
theorem readComparison_periodRelates (start stop : Expr) (relation : PeriodRelation) {b e : Int}
    {first last : Instant} (hbe : b ≤ e) (hle : first ≤ last) (hfirst : first.nanos < 1000000000)
    (hlast : last.nanos < 1000000000)
    (hfirstFinite : first.seconds ∈ Set.Icc firstFiniteSecond lastFiniteSecond)
    (hlastFinite : last.seconds ∈ Set.Icc firstFiniteSecond lastFiniteSecond) :
    ∃ p, readComparison (readValue (start.cast .timestamptz) b)
        (readValue (stop.cast .timestamptz) e)
        (Predicate.periodRelates start stop relation first last).text = some p ∧
      (p ↔ relation.Relates (Set.Icc (b : ℝ) e) (Set.Icc (first.seconds : ℝ) last.seconds) ∧
        ¬ relation.NeedsEnd b e first.seconds last.seconds) := by
  refine ⟨_, readComparison_halfOpen start stop relation b e hfirst hlast hfirstFinite hlastFinite,
    ?_⟩
  have hseconds : first.seconds ≤ last.seconds := by
    rw [Instant.le_def] at hle
    omega
  rw [PeriodRelation.relates_Ico (Int.cast_le.mpr hbe) (Int.cast_le.mpr hseconds)]
  cases relation <;> simp [PeriodRelation.NeedsEnd]

/-- A period contains the interval that begins with it and ends a second before it. -/
theorem readComparison_longer_period :
    let first : Instant := ⟨1704067200, 0, by decide, by decide, by decide, by decide⟩
    let last : Instant := ⟨1704153600, 0, by decide, by decide, by decide, by decide⟩
    let start : Expr := .documentText "s" [.member "validTime", .item 0]
    let stop : Expr := .documentText "s" [.member "validTime", .item 1]
    ∃ p, readComparison (readValue (start.cast .timestamptz) 1704067200)
        (readValue (stop.cast .timestamptz) 1704153601)
        (Predicate.periodRelates start stop .contains first last).text = some p ∧ p := by
  intro first last start stop
  have hbe : (1704067200 : Int) ≤ 1704153601 := by decide
  have hle : first ≤ last := by decide
  obtain ⟨p, hread, hp⟩ := readComparison_periodRelates start stop .contains hbe hle (by decide)
    (by decide) ⟨by decide, by decide⟩ ⟨by decide, by decide⟩
  refine ⟨p, hread, hp.mpr ⟨?_, ?_⟩⟩
  · exact Set.Icc_subset_Icc le_rfl (by norm_num [last])
  · norm_num [PeriodRelation.NeedsEnd, last]

/-- The condition that a period is the interval from the first to the second of January 2024 does
not hold of the period from the first to the second of January 2024. -/
theorem readComparison_same_period :
    let first : Instant := ⟨1704067200, 0, by decide, by decide, by decide, by decide⟩
    let last : Instant := ⟨1704153600, 0, by decide, by decide, by decide, by decide⟩
    ∃ p, readComparison (readValue (.cast (.fragment "b") .timestamptz) first.seconds)
        (readValue (.cast (.fragment "e") .timestamptz) last.seconds)
        (Predicate.periodRelates (.fragment "b") (.fragment "e") .equals first last).text =
          some p ∧ ¬ p ∧
      PeriodRelation.equals.Relates (Set.Icc (first.seconds : ℝ) last.seconds)
        (Set.Icc (first.seconds : ℝ) last.seconds) := by
  intro first last
  refine ⟨_, readComparison_halfOpen _ _ _ _ _ (by decide) (by decide) ⟨by decide, by decide⟩
    ⟨by decide, by decide⟩, fun h => ?_, rfl⟩
  have hle : (first.seconds : ℝ) ≤ last.seconds := Int.cast_le.mpr (by decide)
  exact ((PeriodRelation.relates_Ico hle hle .equals).mp h).2 trivial

end Sql

end ObservationQuery
