import QueryBinding.Generator
import QueryBinding.Proofs.Go.Literal
import QueryBinding.Proofs.Query.Fields
import QueryBinding.Proofs.Query.Statement
import QueryBinding.Proofs.Run.Rendering

/-! # The column list of a bulk insert

A bulk insert lists its columns. With a single parameter the limit on parameters decides whether the
parameter is held by itself or in a record, and the two list its column under different names. Main
statement: `listed_alike_iff`, that the limit does not show in the list exactly if it leaves the
form of the parameter as it is, or the column has one name. -/

namespace QueryBinding

/-- The name of a column in its table's definition if that is known, and otherwise the name that the
query has for it. -/
def FieldSpec.listedName (s : FieldSpec) : String :=
  (s.declaredName.filter (· ≠ "")).getD s.dbName

/-- The name under which a column is listed that is the only one. -/
def FieldSpec.listedAlone (s : FieldSpec) (limit : Option UInt64) : String :=
  if limit = some 0 then s.listedName else s.dbName

theorem Column.listedName_eq (c : Column) :
    c.listedName = (c.declaredName.filter (· ≠ "")).getD c.dbName := by
  rw [listedName]
  cases c.declaredName with
  | none => rfl
  | some declared =>
      by_cases empty : declared = ""
      · rw [empty]
        rfl
      · simp [empty, Option.filter_some]

namespace FieldSpec

theorem listedName_plainField (s : FieldSpec) (name : String) :
    (s.plainField name).listedName = s.listedName :=
  Column.listedName_eq _

theorem listedAlone_eq_iff {s : FieldSpec} {limit limit' : Option UInt64} :
    s.listedAlone limit = s.listedAlone limit' ↔
      (limit = some 0 ↔ limit' = some 0) ∨ s.listedName = s.dbName := by
  by_cases zero : limit = some 0 <;> by_cases zero' : limit' = some 0 <;>
    simp [listedAlone, zero, zero', eq_comm]

theorem listedAlone_eq_listedName_iff {s : FieldSpec} {limit : Option UInt64} :
    s.listedAlone limit = s.listedName ↔ limit = some 0 ∨ s.listedName = s.dbName := by
  by_cases zero : limit = some 0 <;> simp [listedAlone, zero, eq_comm]

end FieldSpec

theorem QuerySpec.listedNames_of_single {q : QuerySpec} {s : Settings} {arrays : ArraySupport}
    {spec : FieldSpec} {params : List Field} (single : q.params = [spec])
    (plain : spec.embed = none) (given : FieldSpec.buildAll q.params = .ok params) :
    (q.paramsBinding s arrays params).listedNames = [spec.listedAlone s.parameterLimit] := by
  rw [single] at given
  cases FieldSpec.buildAll_eq_ok_iff.mp given with
  | cons first rest =>
      cases rest
      rw [FieldSpec.build_plain plain] at first
      obtain ⟨name, -, rfl⟩ := map_eq_ok_iff.mp first
      rw [paramsBinding, FieldSpec.listedAlone]
      by_cases zero : s.parameterLimit = some 0
      · rw [if_neg (fun alone => alone.2 zero), if_pos zero, ← spec.listedName_plainField name]
        rfl
      · rw [if_pos ⟨rfl, zero⟩, if_neg zero]
        rfl

namespace Statement

variable {s : Settings} {q : QuerySpec} {spec : FieldSpec}

/-- The limit on parameters has no part in whether a query is accepted. -/
theorem ofQuery_of_parameterLimit {st : Statement} (accepted : ofQuery s q = .ok st)
    (limit : Option UInt64) : ∃ st', ofQuery { s with parameterLimit := limit } q = .ok st' := by
  obtain ⟨driver, command, table, params, columns, found, known, named, target, given, taken, -⟩ :=
    ofQuery_eq_ok_iff.mp accepted
  exact ⟨_, ofQuery_eq_ok_iff.mpr
    ⟨driver, command, table, params, columns, found, known, named, target, given, taken, rfl⟩⟩

theorem columnNames_of_single {st : Statement} (accepted : ofQuery s q = .ok st)
    (bulk : q.command = ":copyfrom") (single : q.params = [spec]) (plain : spec.embed = none)
    (g : Generator) :
    ∃ f, g.fragments st = .ok f ∧
      f.columnNames = some (Go.stringSlice [spec.listedAlone s.parameterLimit]) := by
  obtain ⟨driver, command, table, params, columns, -, known, -, -, given, -, made⟩ :=
    ofQuery_eq_ok_iff.mp accepted
  obtain ⟨f, rendered⟩ := st.exists_fragments g.settings.nullableEmbeds g.dialect
  have copies : st.command = .copyFrom := by
    rw [made]
    exact (Command.eq_copyFrom_iff (QuerySpec.ofTag?_of_knownCommand known)).mpr bulk
  refine ⟨f, rendered, ?_⟩
  rw [(rendered_of_fragments rendered).columnNames, if_pos copies, Binding.listedNamesText, made]
  exact congrArg (some ∘ Go.stringSlice) (QuerySpec.listedNames_of_single single plain given)

/-- A bulk insert with a single parameter that is no embed lists one column, whatever the limit on
parameters. Under two limits the column is listed alike exactly if the parameter is held alike, or
the table's definition has no other name for its column. -/
theorem listed_alike_iff {st : Statement} (accepted : ofQuery s q = .ok st)
    (bulk : q.command = ":copyfrom") (single : q.params = [spec]) (plain : spec.embed = none)
    (limit limit' : Option UInt64) (g g' : Generator) :
    ∃ a b f f', ofQuery { s with parameterLimit := limit } q = .ok a ∧
      ofQuery { s with parameterLimit := limit' } q = .ok b ∧
      g.fragments a = .ok f ∧ g'.fragments b = .ok f' ∧
      f.columnNames = some (Go.stringSlice [spec.listedAlone limit]) ∧
      (f.columnNames = some (Go.stringSlice [spec.listedName]) ↔
        limit = some 0 ∨ spec.listedName = spec.dbName) ∧
      (f.columnNames = f'.columnNames ↔
        (limit = some 0 ↔ limit' = some 0) ∨ spec.listedName = spec.dbName) := by
  obtain ⟨a, made⟩ := ofQuery_of_parameterLimit accepted limit
  obtain ⟨b, made'⟩ := ofQuery_of_parameterLimit accepted limit'
  obtain ⟨f, rendered, listed⟩ := columnNames_of_single made bulk single plain g
  obtain ⟨f', rendered', listed'⟩ := columnNames_of_single made' bulk single plain g'
  refine ⟨a, b, f, f', made, made', rendered, rendered', listed, ?_, ?_⟩
  · rw [listed, Option.some_inj, Go.stringSlice_inj, List.singleton_inj,
      FieldSpec.listedAlone_eq_listedName_iff]
  · rw [listed, listed', Option.some_inj, Go.stringSlice_inj, List.singleton_inj,
      FieldSpec.listedAlone_eq_iff]

/-- A column whose two names agree is listed alike under every pair of limits. -/
theorem listed_alike_iff_agreeing :
    let spec : FieldSpec :=
      { dbName := "order", type := "int32", declaredName := some "order" }
    let q : QuerySpec :=
      { name := "AddOrders", command := ":copyfrom", text := "INSERT …", params := [spec]
        target := some { name := some "orders" } }
    let g : Generator := ⟨{}, .postgresql⟩
    (∃ st, ofQuery {} q = .ok st) ∧ q.params = [spec] ∧ spec.embed = none ∧
      ∃ a b f f', ofQuery { parameterLimit := some 0 } q = .ok a ∧
        ofQuery { parameterLimit := none } q = .ok b ∧ g.fragments a = .ok f ∧
        g.fragments b = .ok f' ∧ f.columnNames = some "[]string\x7b\"order\"\x7d" ∧
        f.columnNames = f'.columnNames := by
  intro spec q g
  have accepted : (ofQuery {} q).isOk = true := by decide +kernel
  cases made : ofQuery {} q with
  | error failure =>
      rw [made] at accepted
      cases accepted
  | ok st =>
      obtain ⟨a, b, f, f', made', made'', rendered, rendered', listed, -, alike⟩ :=
        listed_alike_iff made rfl rfl rfl (some 0) none g g
      exact ⟨⟨st, rfl⟩, rfl, rfl, a, b, f, f', made', made'', rendered, rendered',
        listed.trans (by decide), alike.mpr (.inr rfl)⟩

/-- A column that the query has to quote, and the table's definition does not, is listed under its
quoted name by the default limit, and under the other if no parameter is passed by itself. -/
theorem listed_quoted_column :
    let q : QuerySpec :=
      { name := "AddOrders", command := ":copyfrom", text := "INSERT …"
        params := [{ dbName := "\"order\"", type := "int32", declaredName := some "order" }]
        target := some { name := some "orders" } }
    let listed := fun (s : Settings) =>
      (ofQuery s q).map fun st => (st.fragments false .postgresql).map (·.columnNames)
    listed {} = .ok (.ok (some "[]string\x7b\"\\\"order\\\"\"\x7d")) ∧
      listed { parameterLimit := some 0 } = .ok (.ok (some "[]string\x7b\"order\"\x7d")) := by
  decide +kernel

end Statement

end QueryBinding
