import QueryBinding.Proofs.Query.Statement
import QueryBinding.Proofs.Run.Rendering
import QueryBinding.Proofs.Go.Literal

/-! # The target of a bulk insert

A bulk insert is refused without a target. A target that is given may lack every part of its name:
each part is optional, and an empty one counts as absent. Main statement: `target_named_iff`, that
an accepted bulk insert has a table to go to exactly if some part of its target is given and not
empty, which no check asks for. -/

namespace QueryBinding

/-- The spelling of a table name without parts. -/
def Dialect.blank : Dialect → String
  | .postgresql => "[]string\x7b\x7d"
  | .mysql => ""

namespace TableName

/-- Whether some part of the name is given and not empty. -/
def NamesTable (t : TableName) : Prop :=
  ∃ part ∈ [t.catalog, t.schema, t.name], ∃ text, part = some text ∧ text ≠ ""

theorem parts_ne_nil_iff {t : TableName} : t.parts ≠ [] ↔ t.NamesTable := by
  rw [parts, ne_eq, List.filterMap_eq_nil_iff, NamesTable]
  simp only [Option.filter_eq_none_iff, decide_eq_true_eq, not_forall, not_not, exists_prop]

theorem spelled_eq_blank_iff {t : TableName} {dialect : Dialect} :
    t.spelled dialect = dialect.blank ↔ ¬ t.NamesTable := by
  rw [← parts_ne_nil_iff, not_not]
  cases dialect with
  | postgresql =>
      have blank : Dialect.blank .postgresql = Go.stringSlice [] := by decide
      rw [blank]
      exact Go.stringSlice_inj
  | mysql =>
      rw [spelled]
      cases t.parts with
      | nil => exact ⟨fun _ => rfl, fun _ => rfl⟩
      | cons first rest =>
          have chars := Text.toList_intercalate_map "." backQuoted first rest
          have opens : (backQuoted first).toList ≠ [] := by
            rw [backQuoted, String.append_assoc, String.toList_append]
            exact List.append_ne_nil_of_left_ne_nil (by decide) _
          constructor
          · intro empty
            rw [empty] at chars
            exact absurd (List.append_eq_nil_iff.mp chars.symm).1 opens
          · intro empty
            cases empty

end TableName

/-- The only check on a target is that there is one. -/
theorem QuerySpec.table_copyFrom_eq_ok_iff {q : QuerySpec} {table : Option TableName} :
    q.table .copyFrom = .ok table ↔ ∃ target, q.target = some target ∧ table = some target := by
  cases given : q.target with
  | none => simp [QuerySpec.table, given]
  | some target => simp [QuerySpec.table, given, eq_comm]

namespace Statement

variable {s : Settings} {q : QuerySpec} {st : Statement}

theorem ofQuery_of_target (accepted : ofQuery s q = .ok st) (bulk : q.command = ":copyfrom")
    (target : TableName) :
    ∃ st', ofQuery s { q with target := some target } = .ok st' ∧ st'.table = some target := by
  obtain ⟨driver, command, table, params, columns, found, known, named, -, given, taken, -⟩ :=
    ofQuery_eq_ok_iff.mp accepted
  have copies := (Command.eq_copyFrom_iff (QuerySpec.ofTag?_of_knownCommand known)).mpr bulk
  subst copies
  exact ⟨_, ofQuery_eq_ok_iff.mpr ⟨driver, .copyFrom, some target, params, columns, found, known,
    named, rfl, given, taken, rfl⟩, rfl⟩

theorem target_of_ofQuery (accepted : ofQuery s q = .ok st) (bulk : q.command = ":copyfrom") :
    ∃ target, q.target = some target ∧ st.table = some target := by
  obtain ⟨driver, command, table, params, columns, -, known, -, checked, -, -, rfl⟩ :=
    ofQuery_eq_ok_iff.mp accepted
  have copies := (Command.eq_copyFrom_iff (QuerySpec.ofTag?_of_knownCommand known)).mpr bulk
  subst copies
  exact QuerySpec.table_copyFrom_eq_ok_iff.mp checked

/-- An accepted bulk insert goes to the target that its query gives, and would be accepted with any
other. Its target has parts, and is spelled as a name by either dialect, exactly if some part of it
is given and not empty. -/
theorem target_named_iff (accepted : ofQuery s q = .ok st) (bulk : q.command = ":copyfrom") :
    ∃ target, q.target = some target ∧ st.table = some target ∧
      (target.parts ≠ [] ↔ target.NamesTable) ∧
      (∀ g : Generator, ∃ f, g.fragments st = .ok f ∧ f.table = some (target.spelled g.dialect) ∧
        (f.table ≠ some g.dialect.blank ↔ target.NamesTable)) ∧
      ∀ other, ∃ st', ofQuery s { q with target := some other } = .ok st' ∧
        st'.table = some other := by
  obtain ⟨target, given, kept⟩ := target_of_ofQuery accepted bulk
  refine ⟨target, given, kept, TableName.parts_ne_nil_iff, ?_, ofQuery_of_target accepted bulk⟩
  intro g
  obtain ⟨f, rendered⟩ := st.exists_fragments g.settings.nullableEmbeds g.dialect
  have spelled : f.table = some (target.spelled g.dialect) := by
    rw [(rendered_of_fragments rendered).table, tableText, kept]
    rfl
  refine ⟨f, rendered, spelled, ?_⟩
  rw [spelled, ne_eq, Option.some_inj, TableName.spelled_eq_blank_iff, not_not]

/-- An empty schema beside a name does no harm. -/
theorem target_named_iff_empty_schema :
    let target : TableName := { schema := some "", name := some "orders" }
    let q : QuerySpec :=
      { name := "AddOrders", command := ":copyfrom", text := "INSERT …"
        params := [{ dbName := "id", type := "int32" }], target := some target }
    let g : Generator := ⟨{}, .mysql⟩
    q.command = ":copyfrom" ∧ target.NamesTable ∧
      ∃ st f, ofQuery {} q = .ok st ∧ st.table = some target ∧ target.parts ≠ [] ∧
        g.fragments st = .ok f ∧ f.table ≠ some "" := by
  intro target q g
  have accepted : (ofQuery {} q).isOk = true := by decide +kernel
  have named : target.NamesTable := ⟨some "orders", by decide, "orders", rfl, by decide⟩
  cases made : ofQuery {} q with
  | error failure =>
      rw [made] at accepted
      cases accepted
  | ok st =>
      obtain ⟨other, given, kept, parts, spelled, -⟩ := target_named_iff made rfl
      cases given
      obtain ⟨f, rendered, -, told⟩ := spelled g
      exact ⟨rfl, named, st, f, rfl, kept, parts.mpr named, rendered, told.mpr named⟩

/-- A target without any part is read, accepted and spelled as no table. -/
theorem target_without_parts :
    let q : QuerySpec :=
      { name := "AddOrders", command := ":copyfrom", text := "INSERT …"
        params := [{ dbName := "id", type := "int32" }], target := some {} }
    let spelled := fun (dialect : Dialect) => (ofQuery {} q).map (·.tableText dialect)
    TableName.shape.codec.ofText "\x7b\x7d" = .ok {} ∧ (TableName.parts {}) = [] ∧
      spelled .postgresql = .ok (some "[]string\x7b\x7d") ∧ spelled .mysql = .ok (some "") := by
  decide +kernel

end Statement

end QueryBinding
