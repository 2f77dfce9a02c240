import Mathlib
import ObservationQuery.CommandLine.Run
import ObservationQuery.Proofs.Scope

/-!
# Table names

Names of tables are the only texts that are written into a query as they are. Settings whose names
are not of the form of a table name are refused, wherever they come from.

* `IsNameStart`, `IsNamePart` — the characters of identifiers.
* `Identifier`, `TableName` — the form of identifiers and of table names.
* `Tables.WellNamed` — all configured names are table names; `Tables.FirstMisnamed` — the first one
  that is not.

Principal results: `isTableName_iff` — which texts are taken for table names;
`Tables.validate_ok_iff`, `Tables.validate_error_iff` — when names are accepted, and what is
reported else; `Tables.settings_wellNamed` — no settings give other names, so that a compiled query
has none.
-/

namespace ObservationQuery

/-! ## Characters and names -/

/-- An ASCII letter or an underscore. -/
def IsNameStart (c : Char) : Prop := 'A' ≤ c ∧ c ≤ 'Z' ∨ 'a' ≤ c ∧ c ≤ 'z' ∨ c = '_'

/-- An ASCII letter, an ASCII digit or an underscore. -/
def IsNamePart (c : Char) : Prop := IsNameStart c ∨ '0' ≤ c ∧ c ≤ '9'

/-- A letter or an underscore, then letters, digits and underscores. -/
inductive Identifier : List Char → Prop
  | mk {c : Char} {cs : List Char} (start : IsNameStart c) (parts : ∀ d ∈ cs, IsNamePart d) :
    Identifier (c :: cs)

/-- An identifier, or two of them with a dot between them. -/
inductive TableName : List Char → Prop
  | plain {cs : List Char} (name : Identifier cs) : TableName cs
  | qualified {schema table : List Char} (left : Identifier schema) (right : Identifier table) :
    TableName (schema ++ '.' :: table)

theorem isNameStart_iff (c : Char) : (c.isAlpha || c == '_') = true ↔ IsNameStart c := by
  simp only [Char.isAlpha, Char.isUpper, Char.isLower, Bool.or_eq_true, Bool.and_eq_true,
    decide_eq_true_eq, beq_iff_eq, or_assoc]
  rfl

theorem isNamePart_iff (c : Char) : (c.isAlphanum || c == '_') = true ↔ IsNamePart c := by
  rw [IsNamePart, ← isNameStart_iff]
  simp only [Char.isAlphanum, Char.isDigit, Bool.or_eq_true, Bool.and_eq_true, decide_eq_true_eq,
    or_right_comm]
  rfl

theorem isIdentifier_iff (cs : List Char) : isIdentifier cs = true ↔ Identifier cs := by
  cases cs with
  | nil =>
    refine ⟨fun h => ?_, fun h => ?_⟩
    · cases h
    · cases h
  | cons c cs =>
    simp only [isIdentifier, Bool.and_eq_true, List.all_eq_true, isNameStart_iff, isNamePart_iff]
    constructor
    · intro h
      exact ⟨h.1, h.2⟩
    · rintro ⟨start, parts⟩
      exact ⟨start, parts⟩

theorem IsNamePart.ne_dot {c : Char} (h : IsNamePart c) : c ≠ '.' := by
  rintro rfl
  revert h
  unfold IsNamePart IsNameStart
  decide

namespace Identifier

variable {cs : List Char}

theorem isNamePart (h : Identifier cs) : ∀ c ∈ cs, IsNamePart c := by
  obtain ⟨start, parts⟩ := h
  exact List.forall_mem_cons.mpr ⟨.inl start, parts⟩

theorem dot_not_mem (h : Identifier cs) : '.' ∉ cs := fun hdot => (h.isNamePart _ hdot).ne_dot rfl

end Identifier

namespace TableName

variable {cs : List Char}

/-- A table name is made of the characters of identifiers and dots. -/
theorem isNamePart_or_dot (h : TableName cs) : ∀ c ∈ cs, IsNamePart c ∨ c = '.' := by
  intro c hc
  cases h with
  | plain name => exact .inl (name.isNamePart c hc)
  | qualified left right =>
    rcases List.mem_append.mp hc with hc | hc
    · exact .inl (left.isNamePart c hc)
    · rcases List.mem_cons.mp hc with hc | hc
      · exact .inr hc
      · exact .inl (right.isNamePart c hc)

/-- A table name has at most one dot. -/
theorem count_dot_le (h : TableName cs) : cs.count '.' ≤ 1 := by
  cases h with
  | plain name =>
    rw [List.count_eq_zero.mpr name.dot_not_mem]
    exact Nat.zero_le 1
  | qualified left right =>
    rw [List.count_append, List.count_cons_self, List.count_eq_zero.mpr left.dot_not_mem,
      List.count_eq_zero.mpr right.dot_not_mem]

end TableName

/-- **A text is taken for a table name exactly if it is one, from its first to its last
character.** -/
theorem isTableName_iff (name : String) : isTableName name = true ↔ TableName name.toList := by
  have hnodot : ∀ cs, Identifier cs → ∀ c ∈ cs, (c != '.') = true :=
    fun cs h c hc => bne_iff_ne.mpr (h.isNamePart c hc).ne_dot
  unfold isTableName
  generalize name.toList = cs
  constructor
  · intro h
    have hsplit := List.takeWhile_append_dropWhile (p := (· != '.')) (l := cs)
    cases hrest : cs.dropWhile (· != '.') with
    | nil =>
      simp only [hrest] at h
      exact .plain ((isIdentifier_iff cs).mp h)
    | cons d rest =>
      -- What is not taken begins with the first dot.
      have hdot : d = '.' := by
        have hne : cs.dropWhile (· != '.') ≠ [] := hrest ▸ List.cons_ne_nil d rest
        simpa [hrest] using List.head_dropWhile_not (· != '.') hne
      simp only [hrest, Bool.and_eq_true, isIdentifier_iff] at h
      rw [hrest, hdot] at hsplit
      rw [← hsplit]
      exact .qualified h.1 h.2
  · intro h
    cases h with
    | plain name =>
      simp only [List.dropWhile_eq_nil_iff.mpr (hnodot cs name)]
      exact (isIdentifier_iff cs).mpr name
    | qualified left right =>
      rename_i schema table
      have hdrop : (schema ++ '.' :: table).dropWhile (· != '.') = '.' :: table := by
        rw [List.dropWhile_append_of_pos (hnodot schema left)]
        rfl
      have htake : (schema ++ '.' :: table).takeWhile (· != '.') = schema := by
        rw [List.takeWhile_append_of_pos (hnodot schema left)]
        exact List.append_nil schema
      simp only [hdrop, htake, Bool.and_eq_true, isIdentifier_iff]
      exact ⟨left, right⟩

/-- A line break at the end, empty parts, three parts and a Cyrillic letter. -/
example : ["obs\n", "", ".obs", "a..b", "a.b.c", "\u043ebs"].filter isTableName = [] := by decide

namespace Tables

/-! ## Validation -/

/-- All configured names are table names. -/
def WellNamed (tables : Tables) : Prop :=
  ∀ e name, tables.table? e = some name → TableName name.toList

/-- The name of an entity is no table name, and those before it are, as far as they are
configured. -/
structure FirstMisnamed (tables : Tables) (entity : Entity) (name : String) : Prop where
  table : tables.table? entity = some name
  misnamed : ¬ TableName name.toList
  order : ∃ before after, before ++ entity :: after =
      [.observation, .dataStream, .featureOfInterest, .system, .commandStream, .command] ∧
    ∀ e ∈ before, ∀ n, tables.table? e = some n → TableName n.toList

/-- Whether the name of an entity is no table name. -/
def isMisnamed (tables : Tables) (e : Entity) : Bool := (tables.table? e).any (!isTableName ·)

variable {tables : Tables}

theorem isMisnamed_eq_false {e : Entity} :
    tables.isMisnamed e = false ↔ ∀ name, tables.table? e = some name → TableName name.toList := by
  cases h : tables.table? e <;> simp [isMisnamed, h, ← isTableName_iff]

theorem isMisnamed_eq_true {e : Entity} :
    tables.isMisnamed e = true ↔
      ∃ name, tables.table? e = some name ∧ ¬ TableName name.toList := by
  cases h : tables.table? e <;> simp [isMisnamed, h, ← isTableName_iff]

/-- The entities are checked one after another. -/
theorem invalidEntry?_eq (tables : Tables) : tables.invalidEntry? =
    (Entity.stored.find? tables.isMisnamed).bind fun e => (tables.table? e).map (e, ·) := by
  unfold invalidEntry? entries
  rw [List.find?_filterMap]
  congr 2
  funext e
  rw [isMisnamed, Option.any_map]

/-- The entities with a table of their own have all tables. -/
theorem wellNamed_iff :
    tables.WellNamed ↔ ∀ e ∈ Entity.stored, tables.isMisnamed e = false := by
  simp only [WellNamed, isMisnamed_eq_false]
  refine ⟨fun h e _ => h e, fun h e => ?_⟩
  cases e with
  | observationStatistics => exact h .observation (by decide)
  | _ => exact h _ (by decide)

theorem invalidEntry?_eq_none : tables.invalidEntry? = none ↔ tables.WellNamed := by
  rw [wellNamed_iff, invalidEntry?_eq, Option.bind_eq_none_iff]
  constructor
  · intro h e he
    cases hfind : Entity.stored.find? tables.isMisnamed with
    | none => simpa using List.find?_eq_none.mp hfind e he
    | some d =>
      obtain ⟨name, hname, -⟩ := isMisnamed_eq_true.mp (List.find?_some hfind)
      have hd := h d hfind
      rw [hname] at hd
      cases hd
  · intro h d hd
    have htrue := List.find?_some hd
    rw [h d (List.mem_of_find?_eq_some hd)] at htrue
    cases htrue

theorem invalidEntry?_eq_some {e : Entity} {name : String} :
    tables.invalidEntry? = some (e, name) ↔ tables.FirstMisnamed e name := by
  simp only [invalidEntry?_eq, Option.bind_eq_some_iff, Option.map_eq_some_iff,
    List.find?_eq_some_iff_append, isMisnamed_eq_true, Bool.not_eq_true', isMisnamed_eq_false]
  constructor
  · rintro ⟨d, ⟨⟨n, hn, hbad⟩, before, after, horder, hbefore⟩, m, hm, heq⟩
    cases heq
    rw [hn] at hm
    cases hm
    exact ⟨hn, hbad, before, after, horder.symm, hbefore⟩
  · rintro ⟨htable, hbad, before, after, horder, hbefore⟩
    exact ⟨e, ⟨⟨name, htable, hbad⟩, before, after, horder.symm, hbefore⟩, name, htable, rfl⟩

theorem validate_eq_ok : tables.validate = .ok () ↔ tables.invalidEntry? = none := by
  unfold validate
  split
  · rename_i h
    simp [h]
  · rename_i h
    simp [h]

/-- **Names are accepted exactly if all of them are table names.** -/
theorem validate_ok_iff : tables.validate = .ok () ↔ tables.WellNamed :=
  validate_eq_ok.trans invalidEntry?_eq_none

/-- **What is reported is the first name that is no table name, with its entity.** -/
theorem validate_error_iff {err : SettingsError} : tables.validate = .error err ↔
    ∃ e name, err = .invalidTableName e name ∧ tables.FirstMisnamed e name := by
  simp only [← invalidEntry?_eq_some, validate]
  constructor
  · intro h
    split at h
    · cases h
    · rename_i e name hentry
      cases h
      exact ⟨e, name, rfl, hentry⟩
  · rintro ⟨e, name, rfl, hentry⟩
    rw [hentry]

/-! ## Loading -/

/-- There are no settings, or their names are accepted. -/
def Checked (result : Except SettingsError Tables) : Prop :=
  ∀ tables, result = .ok tables → tables.validate = .ok ()

theorem checked_error (err : SettingsError) : Checked (.error err) := fun _ h => nomatch h

/-- The standard names need no check. -/
theorem checked_standard : Checked (.ok standard) := by
  rintro tables ⟨⟩
  rfl

theorem ofSettings?_eq_ok {text : String} : ofSettings? text = .ok tables ↔
    (Toml.read? text).bind ofDocument? = some tables ∧ tables.validate = .ok () := by
  unfold ofSettings?
  cases (Toml.read? text).bind ofDocument? with
  | none => exact ⟨(fun h => nomatch h), (fun h => nomatch h.1)⟩
  | some read =>
    constructor
    · intro h
      cases hvalid : read.validate with
      | error err =>
        simp [hvalid, bind, Except.bind] at h
      | ok =>
        simp [hvalid, bind, Except.bind, pure, Except.pure] at h
        rw [← h]
        exact ⟨rfl, hvalid⟩
    · rintro ⟨hread, hvalid⟩
      cases hread
      simp [hvalid, bind, Except.bind, pure, Except.pure]

theorem checked_ofSettings? (text : String) : Checked (ofSettings? text) :=
  fun _ h => (ofSettings?_eq_ok.mp h).2

theorem checked_ofFile? (path : String) (state : FileState) : Checked (ofFile? path state) := by
  cases state with
  | missing | unreadable => exact checked_error _
  | text text => exact checked_ofSettings? text

section
variable {m : Type → Type} [Monad m] [LawfulMonad m] (find : String → m FileState)
  (chosen userDirectory : Option String)

/-- What follows from everything that may be found follows from what is found. -/
theorem satisfiesM_find {α : Type} {P : α → Prop} {next : FileState → m α} (path : String)
    (h : ∀ state, SatisfiesM P (next state)) : SatisfiesM P (find path >>= next) :=
  SatisfiesM.trivial.bind fun state _ => h state

theorem satisfiesM_load : SatisfiesM Checked (load find chosen userDirectory) := by
  unfold load
  -- The cases are the places in the order in which they are tried; each ends in the same reader.
  split
  · exact satisfiesM_find find _ fun state => .pure (checked_ofFile? _ state)
  · refine satisfiesM_find find _ fun localFile => ?_
    split
    · split
      · exact .pure checked_standard
      · refine satisfiesM_find find _ fun userFile => ?_
        split
        · exact .pure checked_standard
        · exact .pure (checked_ofFile? _ _)
    · exact .pure (checked_ofFile? _ _)

theorem satisfiesM_ofConfig (config : Option String) :
    SatisfiesM Checked (ofConfig find chosen userDirectory config) := by
  unfold ofConfig
  split
  · exact satisfiesM_find find _ fun state => .pure (checked_ofFile? _ state)
  · exact satisfiesM_load find chosen userDirectory

end

/-! ## Queries -/

/-- **The tables of a compiled query, and of every query in it, have table names.** -/
theorem tableName_of_mem_scope {f : Filter} {q r : Query} (hT : tables.invalidEntry? = none)
    (h : compile tables f = .ok q) (hr : q.Embeds r) : ∀ t ∈ r.scope, TableName t.toList :=
  fun t ht => (isTableName_iff t).mp
    (((Query.scoped_iff r).mp (hr.scoped (compile_scoped hT h))).scope t ht)

/-- **Whatever the settings say, the names of tables are accepted exactly if each of them is an
identifier or two identifiers with a dot between them; else the first that is not is reported, with
its entity. No text, no file and no place where settings are looked for gives tables with other
names. So in a compiled query, and in every query in it, all that stands before a column is the name
of a table that is made of the characters of identifiers and at most one dot.** -/
theorem settings_wellNamed :
    (∀ tables : Tables, tables.validate = .ok () ↔ tables.WellNamed) ∧
      (∀ (tables : Tables) err, tables.validate = .error err ↔
        ∃ e name, err = .invalidTableName e name ∧ tables.FirstMisnamed e name) ∧
      (∀ text, Checked (ofSettings? text)) ∧ (∀ path state, Checked (ofFile? path state)) ∧
      (∀ {m : Type → Type} [Monad m] [LawfulMonad m] (find : String → m FileState)
        (chosen userDirectory config : Option String),
        SatisfiesM Checked (load find chosen userDirectory) ∧
          SatisfiesM Checked (ofConfig find chosen userDirectory config)) ∧
      ∀ (tables : Tables) f q, tables.validate = .ok () → compile tables f = .ok q →
        ∀ r, q.Embeds r → r.WellScoped ∧ ∀ t ∈ r.scope, TableName t.toList ∧
          (∀ c ∈ t.toList, IsNamePart c ∨ c = '.') ∧ t.toList.count '.' ≤ 1 := by
  refine ⟨fun _ => validate_ok_iff, fun _ _ => validate_error_iff, checked_ofSettings?,
    checked_ofFile?, fun find chosen directory config => ?_, fun tables f q hvalid h r hr => ?_⟩
  · exact ⟨satisfiesM_load find chosen directory, satisfiesM_ofConfig find chosen directory config⟩
  · have hT := validate_eq_ok.mp hvalid
    refine ⟨(hr.scoped (compile_scoped hT h)).wellScoped, fun t ht => ?_⟩
    have hname := tableName_of_mem_scope hT h hr t ht
    exact ⟨hname, hname.isNamePart_or_dot, hname.count_dot_le⟩

/-- A text that names a qualified table, and a filter that joins it. With a line break after its
name the table would be the first that is refused. -/
theorem settings_wellNamed_streams :
    let tables : Tables := { observation := some "obs", dataStream := some "geo.streams" }
    let f : Filter := .observation { dataStream := some (.filter { validTime := some .latest }) }
    ofSettings? "[tables]\ndatastream = \"geo.streams\"\n" = .ok tables ∧
      (∃ q, compile tables f = .ok q ∧ q.scope = ["obs", "geo.streams"] ∧
        ∀ t ∈ q.scope, TableName t.toList ∧ t.toList.count '.' ≤ 1) ∧
      FirstMisnamed { tables with dataStream := some "geo.streams\n", system := some "a..b" }
        .dataStream "geo.streams\n" := by
  intro tables f
  have hload : ofSettings? "[tables]\ndatastream = \"geo.streams\"\n" = .ok tables :=
    ofSettings?_eq_ok.mpr ⟨by decide +kernel, by decide⟩
  obtain ⟨-, herror, htext, -, -, hcompiled⟩ := settings_wellNamed
  refine ⟨hload, ⟨_, rfl, rfl, fun t ht => ?_⟩, ?_⟩
  · obtain ⟨-, hscope⟩ := hcompiled tables f _ (htext _ tables hload) rfl _ .refl
    exact ⟨(hscope t ht).1, (hscope t ht).2.2⟩
  · have hrefused : validate
        { tables with dataStream := some "geo.streams\n", system := some "a..b" } =
          .error (.invalidTableName .dataStream "geo.streams\n") := by decide
    obtain ⟨e, name, hname, hfirst⟩ := (herror _ _).mp hrefused
    cases hname
    exact hfirst

end Tables

end ObservationQuery
