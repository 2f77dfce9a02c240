import ObservationQuery.Json.Record
import ObservationQuery.Proofs.Json

/-!
# Records are read as they are written

* `Json.nesting` — the largest number of arrays and objects nested in a value.
* `Json.ReadsBack` — within a depth, what one function writes is read back by another.

Principal results: `Json.fields?_objectOf` — the fields of a record that is written with all of
them; `Json.ReadsBack.objectOf`, `Json.ReadsBack.optional` — a record is read back when its members
are, and a field that is null where it is absent.
-/

namespace ObservationQuery.Json

/-! ## Nesting -/

mutual

/-- The largest number of arrays and objects nested in a value, itself included. -/
def nesting : Json → Nat
  | .array items => 1 + itemsNesting items
  | .object members => 1 + membersNesting members
  | _ => 0

/-- The largest nesting of items. -/
def itemsNesting : List Json → Nat
  | [] => 0
  | item :: items => max item.nesting (itemsNesting items)

/-- The largest nesting of the values of members. -/
def membersNesting : List (Option String × Json) → Nat
  | [] => 0
  | (_, value) :: members => max value.nesting (membersNesting members)

end

theorem membersNesting_le {members : List (Option String × Json)} {depth : Nat} :
    membersNesting members ≤ depth ↔ ∀ m ∈ members, m.2.nesting ≤ depth := by
  induction members with
  | nil => simp [membersNesting]
  | cons m members ih =>
    obtain ⟨name, value⟩ := m
    rw [membersNesting, Nat.max_le, ih, List.forall_mem_cons]

/-- An object takes one level more than its members. -/
theorem nesting_objectOf {members : List (String × Json)} {depth : Nat} :
    (objectOf members).nesting ≤ depth + 1 ↔ ∀ m ∈ members, m.2.nesting ≤ depth := by
  rw [objectOf, nesting, Nat.add_comm, Nat.succ_le_succ_iff, membersNesting_le, List.forall_mem_map]

theorem nesting_objectOf_ne {members : List (String × Json)} :
    ¬ (objectOf members).nesting ≤ 0 := by
  rw [objectOf, nesting]
  omega

/-! ## Plain values -/

theorem itemsPlain_iff {items : List Json} : ItemsPlain items ↔ ∀ item ∈ items, item.Plain := by
  induction items with
  | nil => simp [ItemsPlain]
  | cons item items ih => rw [ItemsPlain, ih, List.forall_mem_cons]

theorem membersPlain_iff {members : List (Option String × Json)} :
    MembersPlain members ↔ ∀ m ∈ members, m.1.isSome = true ∧ m.2.Plain := by
  induction members with
  | nil => simp [MembersPlain]
  | cons m members ih =>
    obtain ⟨name, value⟩ := m
    rw [MembersPlain, ih, List.forall_mem_cons, and_assoc]

/-- An object is plain when its members are. -/
theorem plain_objectOf {members : List (String × Json)} :
    (objectOf members).Plain ↔ ∀ m ∈ members, m.2.Plain := by
  rw [objectOf, Plain, membersPlain_iff, List.forall_mem_map]
  simp

theorem plain_arrayOf {α : Type} {f : α → Json} (h : ∀ a, (f a).Plain) (l : List α) :
    (arrayOf f l).Plain := by
  rw [arrayOf, Plain, itemsPlain_iff, List.forall_mem_map]
  exact fun a _ => h a

/-! ## Fields -/

theorem find?_name {members : List (String × Json)} (h : (members.map Prod.fst).Nodup)
    {m : String × Json} (hm : m ∈ members) :
    (members.map fun (name, value) => (some name, value)).find? (·.1 == some m.1) =
      some (some m.1, m.2) := by
  induction members with
  | nil => cases hm
  | cons first members ih =>
    rw [List.map_cons, List.nodup_cons] at h
    rw [List.map_cons]
    rcases List.mem_cons.mp hm with rfl | hm
    · rw [List.find?_cons_of_pos (by simp)]
    · have hne : first.1 ≠ m.1 := fun heq => h.1 (heq ▸ List.mem_map_of_mem hm)
      rw [List.find?_cons_of_neg (by simpa using hne), ih h.2 hm]

theorem length_filter_name {members : List (String × Json)} (h : (members.map Prod.fst).Nodup)
    (name : String) : ((members.map fun (name, value) => (some name, value)).filter
      (·.1 == some name)).length ≤ 1 := by
  have hcount := List.nodup_iff_count.mp h name
  rw [← List.countP_eq_length_filter, List.countP_map]
  rw [List.count_eq_countP, List.countP_map] at hcount
  exact hcount

/-- **A record that is written with all its fields has them.** -/
theorem fields?_objectOf {names : List String} {members : List (String × Json)}
    (hnames : members.map Prod.fst = names) (h : names.Nodup) :
    (objectOf members).fields? names = some (members.map fun m => some m.2) := by
  subst hnames
  have hsome : (members.map fun (name, value) => (some name, value)).all (·.1.isSome) = true := by
    simp
  have honce : (members.map Prod.fst).all (fun name =>
      ((members.map fun (name, value) => (some name, value)).filter
        (·.1 == some name)).length ≤ 1) = true := by
    simpa using fun name _ _ => length_filter_name h name
  rw [objectOf, fields?, hsome, honce, Bool.and_self, if_pos rfl, List.map_map]
  refine congrArg some (List.map_congr_left fun m hm => ?_)
  simp only [Function.comp_apply, find?_name h hm, Option.map_some]

theorem optional_some {α : Type} {read : Json → Option α} {value : Json} {a : α}
    (hread : read value = some a) (hnull : value ≠ .null) :
    optional read (some value) = some (some a) := by
  unfold optional
  split
  · rename_i heq
    cases heq
  · rename_i heq
    exact absurd (Option.some.inj heq) hnull
  · rename_i heq
    rw [← Option.some.inj heq, hread, Option.map_some]

/-- The items of an array are read one by one. -/
theorem mapM_map {α : Type} {read : Json → Option α} {write : α → Json}
    (h : ∀ a, read (write a) = some a) (l : List α) : (l.map write).mapM read = some l := by
  induction l with
  | nil => rfl
  | cons a l ih =>
    rw [List.map_cons, List.mapM_cons, h, ih]
    rfl

theorem array?_arrayOf {α : Type} {f : α → Json} {l : List α} {depth : Nat}
    (h : (arrayOf f l).nesting ≤ depth) : (arrayOf f l).array? depth = some (l.map f) := by
  rw [arrayOf, nesting] at h
  rw [arrayOf, array?, if_pos (by omega)]

/-! ## Reading back what was written -/

/-- Within a depth, what `write` writes is plain, is not null, and is read back by `read`. -/
structure ReadsBack {α : Type} (depth : Nat) (read : Json → Option α) (write : α → Json) :
    Prop where
  ne_null : ∀ a, write a ≠ .null
  plain : ∀ a, (write a).nesting ≤ depth → (write a).Plain
  read_write : ∀ a, (write a).nesting ≤ depth → read (write a) = some a

namespace ReadsBack

variable {α : Type} {depth : Nat} {read : Json → Option α} {write : α → Json}

/-- A record, whose members have one level less. -/
theorem objectOf {members : α → List (String × Json)}
    (hwrite : ∀ a, write a = Json.objectOf (members a))
    (h : ∀ a, (∀ m ∈ members a, m.2.nesting ≤ depth) →
      (∀ m ∈ members a, m.2.Plain) ∧ read (Json.objectOf (members a)) = some a) :
    ReadsBack (depth + 1) read write where
  ne_null a hnull := by
    rw [hwrite] at hnull
    cases hnull
  plain a hnesting := by
    rw [hwrite, nesting_objectOf] at hnesting
    rw [hwrite, plain_objectOf]
    exact (h a hnesting).1
  read_write a hnesting := by
    rw [hwrite, nesting_objectOf] at hnesting
    rw [hwrite]
    exact (h a hnesting).2

/-- No record is read without a level. -/
theorem zero {members : α → List (String × Json)}
    (hwrite : ∀ a, write a = Json.objectOf (members a)) : ReadsBack 0 read write where
  ne_null a hnull := by
    rw [hwrite] at hnull
    cases hnull
  plain a hnesting := by
    rw [hwrite] at hnesting
    exact absurd hnesting nesting_objectOf_ne
  read_write a hnesting := by
    rw [hwrite] at hnesting
    exact absurd hnesting nesting_objectOf_ne

/-- A field that is null where it is absent. -/
theorem optional (h : ReadsBack depth read write) (x : Option α)
    (hnesting : (nullable write x).nesting ≤ depth) :
    (nullable write x).Plain ∧ Json.optional read (some (nullable write x)) = some x := by
  cases x with
  | none => exact ⟨trivial, rfl⟩
  | some a => exact ⟨h.plain a hnesting, optional_some (h.read_write a hnesting) (h.ne_null a)⟩

/-- A field that is always written. -/
theorem defaulting (h : ReadsBack depth read write) (default a : α)
    (hnesting : (write a).nesting ≤ depth) :
    (write a).Plain ∧ Json.defaulting default read (some (write a)) = some a :=
  ⟨h.plain a hnesting, h.read_write a hnesting⟩

end ReadsBack

end ObservationQuery.Json
