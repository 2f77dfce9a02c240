/-!
# Finite sets as increasing lists

Identifiers and names come as sets: order of mention and repetition carry no meaning, and every
text made from a set lists its members in increasing order.

* `SortedSet α` — a strictly increasing list, so two sets with the same members are equal
  (`SortedSet.ext_mem`).
* `SortedSet.insert`, `SortedSet.ofList`, `SortedSet.insertAll`, `SortedSet.filter` — each comes
  with the law that says which members the result has.
* `SortedSet.ofList_toList` — reading the members of a set back gives the set.
-/

namespace ObservationQuery

/-- A finite set, listed in strictly increasing order. -/
@[ext] structure SortedSet (α : Type) [LT α] where
  toList : List α
  sorted : toList.Pairwise (· < ·)

namespace SortedSet

section
variable {α : Type} [LT α]

instance [DecidableEq α] : DecidableEq (SortedSet α) := fun s t =>
  decidable_of_iff (s.toList = t.toList) ⟨fun h => SortedSet.ext h, fun h => h ▸ rfl⟩

instance [Repr α] : Repr (SortedSet α) := ⟨fun s => reprPrec s.toList⟩

instance : Membership α (SortedSet α) := ⟨fun s a => a ∈ s.toList⟩

theorem mem_def {a : α} {s : SortedSet α} : a ∈ s ↔ a ∈ s.toList := Iff.rfl

instance [DecidableEq α] (a : α) (s : SortedSet α) : Decidable (a ∈ s) :=
  inferInstanceAs (Decidable (a ∈ s.toList))

/-- The set without members. -/
def empty : SortedSet α := ⟨[], .nil⟩

instance : EmptyCollection (SortedSet α) := ⟨empty⟩

instance : Inhabited (SortedSet α) := ⟨∅⟩

@[simp] theorem toList_empty : (∅ : SortedSet α).toList = [] := rfl

/-- Whether the set has no members. -/
def isEmpty (s : SortedSet α) : Bool := s.toList.isEmpty

/-- The set of one member. -/
def singleton (a : α) : SortedSet α := ⟨[a], List.pairwise_singleton _ a⟩

@[simp] theorem toList_singleton (a : α) : (singleton a).toList = [a] := rfl

/-- The members that satisfy `p`. -/
def filter (p : α → Bool) (s : SortedSet α) : SortedSet α :=
  ⟨s.toList.filter p, s.sorted.filter p⟩

@[simp] theorem toList_filter (p : α → Bool) (s : SortedSet α) :
    (s.filter p).toList = s.toList.filter p := rfl

end

section
variable {α : Type} [LT α] [DecidableLT α]

/-- Inserts `a` before the first greater member, unless it is there already. -/
def insertInto (a : α) : List α → List α
  | [] => [a]
  | b :: l => if a < b then a :: b :: l else if b < a then b :: insertInto a l else b :: l

variable [LE α] [Std.IsLinearOrder α] [Std.LawfulOrderLT α]

theorem mem_insertInto {x a : α} {l : List α} : x ∈ insertInto a l ↔ x = a ∨ x ∈ l := by
  induction l with
  | nil => simp [insertInto]
  | cons b l ih =>
    unfold insertInto
    split
    · simp
    · split
      · simp only [List.mem_cons, ih]
        constructor
        · rintro (h | h | h) <;> simp [h]
        · rintro (h | h | h) <;> simp [h]
      · rename_i hab hba
        have h : a = b := by
          rcases Std.lt_trichotomy a b with h | h | h
          · exact absurd h hab
          · exact h
          · exact absurd h hba
        subst h
        simp

theorem pairwise_insertInto {a : α} {l : List α} (h : l.Pairwise (· < ·)) :
    (insertInto a l).Pairwise (· < ·) := by
  induction l with
  | nil => exact List.pairwise_singleton _ a
  | cons b l ih =>
    have hb := List.pairwise_cons.mp h
    unfold insertInto
    split
    · rename_i hab
      refine List.pairwise_cons.mpr ⟨fun x hx => ?_, h⟩
      rcases List.mem_cons.mp hx with rfl | hx
      · exact hab
      · exact Std.lt_trans hab (hb.1 x hx)
    · split
      · rename_i hba
        refine List.pairwise_cons.mpr ⟨fun x hx => ?_, ih hb.2⟩
        rcases mem_insertInto.mp hx with rfl | hx
        · exact hba
        · exact hb.1 x hx
      · exact h

/-- The set with `a` as a further member. -/
def insert (s : SortedSet α) (a : α) : SortedSet α :=
  ⟨insertInto a s.toList, pairwise_insertInto s.sorted⟩

/-- The set with every element of a list as a further member. -/
def insertAll (s : SortedSet α) (l : List α) : SortedSet α := l.foldl insert s

/-- The set of the elements of a list. -/
def ofList (l : List α) : SortedSet α := insertAll ∅ l

@[simp] theorem mem_insert {x a : α} {s : SortedSet α} : x ∈ s.insert a ↔ x = a ∨ x ∈ s :=
  mem_insertInto

@[simp] theorem mem_insertAll {x : α} {l : List α} {s : SortedSet α} :
    x ∈ s.insertAll l ↔ x ∈ l ∨ x ∈ s := by
  induction l generalizing s with
  | nil => simp [insertAll]
  | cons a l ih =>
    have := @ih (s.insert a)
    simp only [insertAll, List.foldl_cons] at this ⊢
    rw [this, mem_insert, List.mem_cons]
    constructor
    · rintro (h | h | h) <;> simp [h]
    · rintro ((h | h) | h) <;> simp [h]

@[simp] theorem mem_ofList {x : α} {l : List α} : x ∈ ofList l ↔ x ∈ l := by
  rw [ofList, mem_insertAll]
  simp [mem_def]

/-- A greater element goes to the end. -/
theorem insertInto_of_forall_lt {a : α} {l : List α} (h : ∀ b ∈ l, b < a) :
    insertInto a l = l ++ [a] := by
  induction l with
  | nil => rfl
  | cons b l ih =>
    have hb := h b (by simp)
    have hn : ¬ a < b := fun hab => Std.lt_irrefl (Std.lt_trans hab hb)
    simp only [insertInto, if_neg hn, if_pos hb, List.cons_append]
    rw [ih (fun x hx => h x (by simp [hx]))]

theorem toList_insertAll_of_sorted {l : List α} {s : SortedSet α}
    (h : (s.toList ++ l).Pairwise (· < ·)) : (s.insertAll l).toList = s.toList ++ l := by
  induction l generalizing s with
  | nil => simp [insertAll]
  | cons a l ih =>
    have ha : ∀ b ∈ s.toList, b < a := fun b hb =>
      (List.pairwise_append.mp h).2.2 b hb a (by simp)
    have hs : (s.insert a).toList = s.toList ++ [a] := insertInto_of_forall_lt ha
    have hl : ((s.insert a).toList ++ l).Pairwise (· < ·) := by rw [hs, List.append_assoc]; exact h
    have := ih hl
    simp only [insertAll, List.foldl_cons] at this ⊢
    rw [this, hs, List.append_assoc]
    rfl

/-- The members of a set determine it. -/
theorem ofList_toList (s : SortedSet α) : ofList s.toList = s :=
  have h : ((∅ : SortedSet α).toList ++ s.toList).Pairwise (· < ·) := by simpa using s.sorted
  SortedSet.ext (by simpa [ofList] using toList_insertAll_of_sorted h)

omit [DecidableLT α] in
/-- Two sets with the same members are the same set. -/
theorem ext_mem {s t : SortedSet α} (h : ∀ x, x ∈ s ↔ x ∈ t) : s = t := by
  obtain ⟨l, hl⟩ := s
  obtain ⟨m, hm⟩ := t
  suffices l = m by subst this; rfl
  have hirr : ∀ {x y : α}, x < y → y < x → False := fun h1 h2 => Std.lt_irrefl (Std.lt_trans h1 h2)
  have hp : l.Perm m := by
    refine (List.perm_ext_iff_of_nodup ?_ ?_).mpr h
    · exact hl.imp (fun {x y} h e => by subst e; exact Std.lt_irrefl h)
    · exact hm.imp (fun {x y} h e => by subst e; exact Std.lt_irrefl h)
  exact hp.eq_of_pairwise (fun x y _ _ h1 h2 => (hirr h1 h2).elim) hl hm

end

end SortedSet

/-- A set of identifiers. -/
abbrev IdSet := SortedSet Int64

/-- A set of names. -/
abbrev NameSet := SortedSet String

end ObservationQuery
