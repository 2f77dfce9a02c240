import ObservationQuery.Proofs.FlatObservation
import ObservationQuery.Proofs.Merge
import ObservationQuery.Proofs.Sql.Rows

/-!
# Members of selected systems

A filter on systems may ask for the members of the systems that it selects, too. Members are found
by the internal identifier of their parent, so they are members of the systems that are named by
internal identifier; where systems are named by unique identifier alone, none are added.

* `SystemFilter.idConditions` — the conditions that select systems by their identifiers.
* `Database.TestsIds` — tests for identifiers compare numbers.

Principal result: `members_of_compileInto` — asking for members changes these conditions only: with
internal identifiers the members of selected systems pass them if they have one of the unique
identifiers, and without internal identifiers nothing changes.
-/

namespace ObservationQuery

open Contribution FeatureRow

/-! ## Conditions on identifiers -/

/-- The conditions that select systems by their identifiers. -/
def SystemFilter.idConditions (table : String) (f : SystemFilter) : List Condition :=
  (f.idCondition? table).toList ++ (Condition.hasUniqueId (uniqueId table) f.uniqueIds).toList

/-- A test for some identifiers is true of a value exactly if this is the number of one of them. -/
def Database.TestsIds {Row Value : Type} (db : Database Row Value) (number : Int64 → Value) : Prop :=
  ∀ e ids v, db.test (.hasId e ids) v = true ↔ ∃ id ∈ ids, v e = some (number id)

theorem Contribution.clauses_condition? (c : Option Condition) :
    (condition? c).clauses = c.toList.map .condition := by
  cases c <;> rfl

namespace SystemFilter

variable {root table : String} {f : SystemFilter}

/-- Whether members are wanted decides on the conditions on identifiers only. -/
theorem exists_clauses_contribution (h : (f.contribution root table).Succeeds) :
    ∃ before after : List Clause, ∀ members : Bool,
      let g := { f with includeMembers := members }
      (g.contribution root table).Succeeds ∧
        (g.contribution root table).clauses =
          before ++ (g.idConditions table).map .condition ++ after := by
  let before := all [.ofOption (parentContribution .system table) f.parent,
    .unsupported .system "procedure" f.procedure,
    .unsupported .system "dataStreams" f.dataStreams]
  let after := all [.ofOption (locationContribution table) f.location,
    .ofOption (fullTextContribution table) f.fullText,
    .ofOption (validTimeContribution root table) f.validTime]
  have hparts : ∀ members : Bool,
      ({ f with includeMembers := members } : SystemFilter).contribution root table =
        before ++ (condition? (({ f with includeMembers := members } : SystemFilter).idCondition?
          table) ++ (uniqueIdContribution table f.uniqueIds ++ after)) := by
    intro members
    simp only [SystemFilter.contribution, before, after, all_cons, all_nil, append_empty,
      append_assoc]
  have hf : (before ++ (condition? (f.idCondition? table) ++
      (uniqueIdContribution table f.uniqueIds ++ after))).Succeeds := hparts f.includeMembers ▸ h
  obtain ⟨hbefore, hrest⟩ := succeeds_append.mp hf
  obtain ⟨-, hrest⟩ := succeeds_append.mp hrest
  obtain ⟨huids, hafter⟩ := succeeds_append.mp hrest
  refine ⟨before.clauses, after.clauses, fun members => ?_⟩
  constructor
  · rw [hparts]
    exact succeeds_append.mpr ⟨hbefore, succeeds_append.mpr ⟨succeeds_condition? _, hrest⟩⟩
  · rw [hparts, clauses_append hbefore, clauses_append (succeeds_condition? _),
      clauses_append huids, clauses_condition?, uniqueIdContribution, clauses_condition?,
      idConditions]
    simp only [List.map_append, List.append_assoc]

theorem idCondition?_of_empty (h : f.internalIds = ∅) : f.idCondition? table = none := by
  have hnone : ∀ e, Condition.idTests e f.internalIds = [] :=
    fun e => Condition.idTests_eq_nil.mpr h
  rw [idCondition?, hnone, hnone, ite_self]
  rfl

theorem idTests_of_ne_empty {e : Expr} {ids : IdSet} (h : ids ≠ ∅) :
    Condition.idTests e ids = [.hasId e ids] := by
  rw [Condition.idTests, if_neg]
  rwa [SortedSet.isEmpty_iff]

section
variable {Row Value : Type} [DecidableEq Value] {db : Database Row Value} {number : Int64 → Value}
  {m member : Match Row}

/-- A row passes the condition on internal identifiers if its own is one of them or, where members
are wanted, that of its parent is. -/
theorem holds_idCondition? (table : String) (hdb : db.TestsIds number) (h : f.internalIds ≠ ∅) :
    ∃ c, f.idCondition? table = some c ∧ ∀ m, c.holds db m = true ↔
      (∃ id ∈ f.internalIds, db.value m (FeatureRow.id table) = some (number id)) ∨
        f.includeMembers = true ∧
          ∃ id ∈ f.internalIds, db.value m (parentId table) = some (number id) := by
  have htest : ∀ e m, db.holds m (.hasId e f.internalIds) = true ↔
      ∃ id ∈ f.internalIds, db.value m e = some (number id) := fun e m => hdb e _ _
  rw [idCondition?, idTests_of_ne_empty h, idTests_of_ne_empty h]
  cases f.includeMembers with
  | false =>
    refine ⟨_, rfl, fun m => ?_⟩
    rw [Condition.holds]
    simp [htest]
  | true =>
    refine ⟨_, rfl, fun m => ?_⟩
    rw [Condition.holds]
    simp [htest]

theorem forall_mem_idConditions {P : Condition → Prop} :
    (∀ c ∈ f.idConditions table, P c) ↔ (∀ c ∈ f.idCondition? table, P c) ∧
      ∀ c ∈ Condition.hasUniqueId (uniqueId table) f.uniqueIds, P c := by
  simp only [idConditions, List.forall_mem_append, Option.mem_toList, Option.mem_def]

end

end SystemFilter

section
variable {tables : Tables} {table : String} {pin : Option Int64} {f : SystemFilter} {q r : Query}

/-- **A filter that asks for members has the query of the filter that does not, apart from the
conditions on identifiers. With internal identifiers, the rows that pass these still do, and a
member of one of them does if it passes the condition on unique identifiers; without internal
identifiers, the conditions are the same. Where systems are not joined, the filter is refused.** -/
theorem members_of_compileInto (hf : f.includeMembers = true)
    (h : (Filter.system f).compileInto tables table pin q = (r, none)) :
    let plain := { f with includeMembers := false }
    (∃ before after : List Clause,
      r = q.addAll (before ++ (f.idConditions table).map .condition ++ after) ∧
      (Filter.system plain).compileInto tables table pin q =
        (q.addAll (before ++ (plain.idConditions table).map .condition ++ after), none)) ∧
    (f.internalIds ≠ ∅ → ∀ (Row Value : Type) [DecidableEq Value] (db : Database Row Value)
      (number : Int64 → Value), db.TestsIds number → ∀ m : Match Row,
        (∀ c ∈ plain.idConditions table, c.holds db m = true) →
          (∀ c ∈ f.idConditions table, c.holds db m = true) ∧
          ∀ member : Match Row,
            db.value member (parentId table) = db.value m (FeatureRow.id table) →
              ((∀ c ∈ f.idConditions table, c.holds db member = true) ↔
                ∀ c ∈ Condition.hasUniqueId (uniqueId table) f.uniqueIds,
                  c.holds db member = true)) ∧
    (f.internalIds = ∅ → f.idConditions table = plain.idConditions table) ∧
    ∀ entity field, (Linked.filter f).resolve none entity field =
      .error (.noLinkedStore entity field) := by
  intro plain
  refine ⟨?_, fun hids Row Value _ db number hdb m hm => ?_, fun hids => ?_, fun entity field => ?_⟩
  · have hsucceeds : (f.contribution q.table table).Succeeds := congrArg Prod.snd h
    have hsame : { f with includeMembers := true } = f := by
      obtain ⟨⟩ := f
      cases hf
      rfl
    obtain ⟨before, after, hclauses⟩ := SystemFilter.exists_clauses_contribution hsucceeds
    obtain ⟨-, hmembers⟩ := hclauses true
    rw [hsame] at hmembers
    refine ⟨before, after, ?_, Prod.ext ?_ (hclauses false).1⟩
    · rw [← hmembers]
      exact (congrArg Prod.fst h).symm
    · rw [← (hclauses false).2]
      rfl
  · obtain ⟨c, hc, hholds⟩ := SystemFilter.holds_idCondition? table hdb hids
    obtain ⟨d, hd, hplain⟩ := SystemFilter.holds_idCondition? (f := plain) table hdb hids
    obtain ⟨hmid, hmuid⟩ := SystemFilter.forall_mem_idConditions.mp hm
    -- Without members, the row has one of the internal identifiers itself.
    obtain ⟨id, hid, hvalue⟩ := ((hplain m).mp (hmid d hd)).resolve_right fun hno => nomatch hno.1
    have hwith : ∀ n : Match Row, (∀ c ∈ f.idConditions table, c.holds db n = true) ↔
        c.holds db n = true ∧ ∀ c ∈ Condition.hasUniqueId (uniqueId table) f.uniqueIds,
          c.holds db n = true := by
      intro n
      rw [SystemFilter.forall_mem_idConditions, hc]
      simp only [Option.mem_some_iff, forall_eq']
    refine ⟨(hwith m).mpr ⟨(hholds m).mpr (.inl ⟨id, hid, hvalue⟩), hmuid⟩, fun member hparent => ?_⟩
    have hmember : c.holds db member = true :=
      (hholds member).mpr (.inr ⟨hf, id, hid, hparent.trans hvalue⟩)
    rw [hwith, and_iff_right hmember]
  · have hnone : plain.idCondition? table = none := SystemFilter.idCondition?_of_empty hids
    rw [SystemFilter.idConditions, SystemFilter.idConditions,
      SystemFilter.idCondition?_of_empty hids, hnone]
  · have hno : idsOnly? f = none := by
      rw [← Option.not_isSome_iff_eq_none, Option.isSome_iff_exists, SystemFilter.idsOnly_iff]
      intro hnames
      exact absurd (congrArg SystemFilter.includeMembers hnames) (by simp [hf])
    rw [Linked.resolve, hno]

end

/-- A system and a member of it, of different unique identifiers. -/
def Database.systemWithMember : Database String String where
  rows
    | "sys" => ["system", "member"]
    | _ => []
  nodup_rows table := by
    split <;> decide
  column
    | "system", "id" | "member", "parentid" => some "1"
    | "member", "id" => some "2"
    | _, _ => none
  document
    | "system", _ => some "urn:a"
    | "member", _ => some "urn:b"
    | _, _ => none
  cast _ := some
  fragment _ _ := none
  test p v :=
    match p with
    | .hasId e ids => ids.toList.any fun id => v e == some (idText id)
    | .isText e value => v e == some value
    | _ => false
  order _ ms := ms
  order_perm _ _ := .refl _

theorem Database.testsIds_systemWithMember : systemWithMember.TestsIds idText := by
  intro e ids v
  simp [systemWithMember, SortedSet.mem_def]

/-- A system that is named by internal identifier is selected with its member. -/
theorem members_of_internal_id :
    let f : SystemFilter := { internalIds := .singleton 1, includeMembers := true }
    let plain : SystemFilter := { f with includeMembers := false }
    let db := Database.systemWithMember
    ∃ r, (Filter.system f).compileInto {} "sys" none (.ofTable "sys") = (r, none) ∧
      r.conditions.map Condition.text = ["(sys.id = 1 OR sys.parentid = 1)"] ∧
      (∀ c ∈ plain.idConditions "sys", c.holds db [("sys", "system")] = true) ∧
      (¬ ∀ c ∈ plain.idConditions "sys", c.holds db [("sys", "member")] = true) ∧
      ∀ c ∈ f.idConditions "sys", c.holds db [("sys", "member")] = true := by
  intro f plain db
  have hcompile : ∃ r, (Filter.system f).compileInto {} "sys" none (.ofTable "sys") = (r, none) :=
    ⟨_, rfl⟩
  obtain ⟨r, hr⟩ := hcompile
  obtain ⟨-, hmembers, -⟩ := members_of_compileInto (f := f) rfl hr
  have hsystem : ∀ c ∈ plain.idConditions "sys", c.holds db [("sys", "system")] = true := by decide
  obtain ⟨-, hmember⟩ := hmembers (by decide) String String db idText
    Database.testsIds_systemWithMember [("sys", "system")] hsystem
  refine ⟨r, hr, ?_, hsystem, by decide, ?_⟩
  · cases hr
    decide
  · exact (hmember [("sys", "member")] rfl).mpr (by decide)

/-- A system that is named by unique identifier: its member is asked for, but neither selected nor
refused. -/
theorem members_of_unique_id :
    let tables : Tables := { system := some "sys" }
    let f : SystemFilter := { uniqueIds := .singleton "urn:a", includeMembers := true }
    let plain : SystemFilter := { f with includeMembers := false }
    let db := Database.systemWithMember
    tables.invalidEntry? = none ∧ ∃ q p, compile tables (.system f) = .ok q ∧
      compile tables (.system plain) = .ok p ∧
      q.conditions.map Condition.text = ["(sys.data->'properties'->>'uid') = 'urn:a'"] ∧
      q.text = p.text ∧
      (∀ c ∈ p.conditions, c.holds db [("sys", "system")] = true) ∧
      db.value [("sys", "member")] (parentId "sys") =
        db.value [("sys", "system")] (FeatureRow.id "sys") ∧
      (¬ ∀ c ∈ f.idConditions "sys", c.holds db [("sys", "member")] = true) ∧
      q.answers db = [[("sys", "system")]] := by
  intro tables f plain db
  refine ⟨by decide, _, _, rfl, rfl, by decide, rfl, ?_, rfl, by decide, by decide⟩
  decide

end ObservationQuery
