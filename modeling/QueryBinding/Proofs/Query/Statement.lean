import QueryBinding.Statement.Build
import QueryBinding.Proofs.Query.Checks

/-! # Accepted queries

A query is accepted if each check on it succeeds, and its statement is then made of what the checks
gave. Main statement: `ofQuery_eq_ok_iff`. -/

namespace QueryBinding

theorem Settings.arrays_eq_ok_iff {s : Settings} {arrays : ArraySupport} :
    s.arrays = .ok arrays ↔ ∃ driver, s.driver = .ok driver ∧ driver.arrays = arrays :=
  map_eq_ok_iff

theorem Command.eq_copyFrom_iff {text : String} {command : Command}
    (h : ofTag? text = some command) : command = .copyFrom ↔ text = copyFrom.tag := by
  constructor
  · rintro rfl
    exact (tag_of_ofTag? h).symm
  · rintro rfl
    exact Option.some.inj (h.symm.trans (ofTag?_tag .copyFrom))

namespace QuerySpec

theorem ofTag?_of_knownCommand {q : QuerySpec} {command : Command}
    (known : q.knownCommand = .ok command) : Command.ofTag? q.command = some command := by
  unfold knownCommand at known
  split at known
  · next found =>
      cases known
      exact found
  · cases known

theorem checkName_eq_ok_iff {q : QuerySpec} {u : Unit} : q.checkName = .ok u ↔ q.name ≠ "" := by
  unfold checkName
  split
  · next h => exact ⟨fun impossible => (nomatch impossible), fun named => absurd h named⟩
  · next h => exact ⟨fun _ => h, fun _ => rfl⟩

theorem paramFields_eq_ok_iff {q : QuerySpec} {fields : List Field} :
    q.paramFields = .ok fields ↔ FieldSpec.buildAll q.params = .ok fields :=
  mapError_eq_ok_iff

theorem columnFields_eq_ok_iff {q : QuerySpec} {fields : List Field} :
    q.columnFields = .ok fields ↔ FieldSpec.buildAll q.columns = .ok fields :=
  mapError_eq_ok_iff

section Shapes

variable (q : QuerySpec) (s : Settings) (arrays : ArraySupport) (fields : List Field)

/-- Parameters are bound as nothing, as one value, or as a record that is a struct beyond the
limit. -/
theorem cases_paramsBinding :
    (fields = [] ∧ q.paramsBinding s arrays fields = .ofNothing arrays) ∨
    (∃ f, fields = [f] ∧ s.parameterLimit ≠ some 0 ∧
      q.paramsBinding s arrays fields = .ofField f.asVariable arrays) ∨
    (fields ≠ [] ∧ q.paramsBinding s arrays fields =
      ⟨.record "arg" ⟨q.name ++ "Params", fields⟩, s.exceedsLimit fields.length,
        s.paramsByPointer, arrays⟩) := by
  cases fields with
  | nil => exact .inl ⟨rfl, rfl⟩
  | cons first rest =>
      rw [paramsBinding]
      split
      · next single =>
          obtain ⟨rfl, allowed⟩ := single
          exact .inr (.inl ⟨first, rfl, allowed, rfl⟩)
      · exact .inr (.inr ⟨List.cons_ne_nil _ _, rfl⟩)

/-- A row is bound as nothing, as one value, or as a struct. -/
theorem cases_resultBinding :
    (fields = [] ∧ q.resultBinding s arrays fields = .ofNothing arrays) ∨
    (∃ f, fields = [f] ∧ f.embed = none ∧
      q.resultBinding s arrays fields = .ofField f.asVariable arrays) ∨
    (fields ≠ [] ∧ (∀ f, fields = [f] → f.embed ≠ none) ∧ q.resultBinding s arrays fields =
      ⟨.record rowVariable ⟨q.name ++ "Row", fields⟩, true, s.resultsByPointer, arrays⟩) := by
  cases fields with
  | nil => exact .inl ⟨rfl, rfl⟩
  | cons first rest =>
      rw [resultBinding]
      split
      · next single =>
          obtain ⟨rfl, plain⟩ := single
          exact .inr (.inl ⟨first, rfl, by simpa [Field.isEmbed] using plain, rfl⟩)
      · next struct =>
          refine .inr (.inr ⟨List.cons_ne_nil _ _, ?_, rfl⟩)
          rintro f ⟨⟩ plain
          exact struct ⟨rfl, by simp [Field.isEmbed, plain]⟩

end Shapes

/-- The statement that a query becomes, given what its checks found. -/
def statementOf (q : QuerySpec) (s : Settings) (arrays : ArraySupport) (command : Command)
    (table : Option TableName) (params columns : List Field) : Statement where
  command := command
  comments := q.comments
  methodName := q.name
  fieldName := Text.lowerFirst q.name ++ "Stmt"
  constantName := Text.lowerFirst q.name
  sql := q.text
  sourceName := q.filename
  params := q.paramsBinding s arrays params
  result := q.resultBinding s arrays columns
  table := table

end QuerySpec

/-- A query is accepted with a statement if the settings name a driver, the command is known, the
query has a name and the target that its command asks for, and all fields are accepted. -/
theorem Statement.ofQuery_eq_ok_iff {s : Settings} {q : QuerySpec} {st : Statement} :
    ofQuery s q = .ok st ↔ ∃ driver command table params columns,
      s.driver = .ok driver ∧ q.knownCommand = .ok command ∧ q.name ≠ "" ∧
      q.table command = .ok table ∧ FieldSpec.buildAll q.params = .ok params ∧
      FieldSpec.buildAll q.columns = .ok columns ∧
      st = q.statementOf s driver.arrays command table params columns := by
  rw [ofQuery]
  simp only [bind_eq_ok_iff, Settings.arrays_eq_ok_iff, QuerySpec.checkName_eq_ok_iff,
    QuerySpec.paramFields_eq_ok_iff, QuerySpec.columnFields_eq_ok_iff, Except.ok.injEq]
  constructor
  · rintro ⟨_, ⟨driver, found, rfl⟩, command, known, _, named, table, target, params, given,
      columns, taken, rfl⟩
    exact ⟨driver, command, table, params, columns, found, known, named, target, given, taken, rfl⟩
  · rintro ⟨driver, command, table, params, columns, found, known, named, target, given, taken,
      rfl⟩
    exact ⟨_, ⟨driver, found, rfl⟩, command, known, (), named, table, target, params, given,
      columns, taken, rfl⟩

end QueryBinding
