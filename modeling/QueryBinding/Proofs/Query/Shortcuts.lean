import QueryBinding.Proofs.Query.Statement

/-! # Bindings by the number of fields

What is bound depends on how many fields there are. Looked up by their number, the only field of a
list might be missing, and that would be a fault of its own. Main statement: `ofQueryByCount_eq`,
that no number of fields leads there. -/

namespace QueryBinding

/-- The first field of a list that should have one, as a variable. -/
def onlyVariable : List Field → Except Failure Field
  | [] => .error (StatementFault.stated "expected exactly one field").failure
  | field :: _ => .ok field.asVariable

namespace QuerySpec

variable (q : QuerySpec) (s : Settings) (arrays : ArraySupport)

def paramsByCount (fields : List Field) : Except Failure Binding :=
  if fields.length = 0 then .ok (.ofNothing arrays)
  else if fields.length = 1 ∧ s.parameterLimit ≠ some 0 then
    (onlyVariable fields).map fun field => .ofField field arrays
  else
    .ok { Binding.ofRecord paramsVariable ⟨q.name ++ "Params", fields⟩ arrays with
      asStruct := s.exceedsLimit fields.length
      byPointer := s.paramsByPointer }

def resultByCount (fields : List Field) : Except Failure Binding :=
  if fields.length = 0 then .ok (.ofNothing arrays)
  else if fields.length = 1 ∧ fields.head?.any (·.isEmbed) = false then
    (onlyVariable fields).map fun field => .ofField field arrays
  else
    .ok { Binding.ofRecord rowVariable ⟨q.name ++ "Row", fields⟩ arrays with
      byPointer := s.resultsByPointer }

theorem paramsByCount_eq (fields : List Field) :
    q.paramsByCount s arrays fields = .ok (q.paramsBinding s arrays fields) := by
  cases fields with
  | nil => rfl
  | cons first rest =>
      by_cases single : rest = [] ∧ s.parameterLimit ≠ some 0
      · rw [paramsBinding, if_pos single]
        obtain ⟨rfl, limit⟩ := single
        exact if_pos (And.intro rfl limit)
      · have several : ¬ ((first :: rest).length = 1 ∧ s.parameterLimit ≠ some 0) := by
          simpa using single
        rw [paramsBinding, if_neg single]
        exact if_neg several

theorem resultByCount_eq (fields : List Field) :
    q.resultByCount s arrays fields = .ok (q.resultBinding s arrays fields) := by
  cases fields with
  | nil => rfl
  | cons first rest =>
      by_cases single : rest = [] ∧ ¬ first.isEmbed
      · rw [resultBinding, if_pos single]
        obtain ⟨rfl, plain⟩ := single
        exact if_pos (And.intro rfl (Bool.eq_false_iff.mpr plain))
      · have several : ¬ ((first :: rest).length = 1 ∧
            (first :: rest).head?.any (·.isEmbed) = false) := by
          simpa using single
        rw [resultBinding, if_neg single]
        exact if_neg several

end QuerySpec

/-- The statement of a query, each binding looked up by the number of its fields. -/
def Statement.ofQueryByCount (s : Settings) (q : QuerySpec) : Except Failure Statement := do
  let arrays ← s.arrays
  let command ← q.knownCommand
  q.checkName
  let table ← q.table command
  let params ← (FieldSpec.buildAll q.params >>= q.paramsByCount s arrays).mapError
    (·.noted ("parameters of " ++ q.name))
  let result ← (FieldSpec.buildAll q.columns >>= q.resultByCount s arrays).mapError
    (·.noted ("result of " ++ q.name))
  .ok { q.statementOf s arrays command table [] [] with params, result }

theorem Statement.ofQueryByCount_eq (s : Settings) (q : QuerySpec) :
    ofQueryByCount s q = ofQuery s q := by
  rw [ofQueryByCount, ofQuery, QuerySpec.paramFields, QuerySpec.columnFields]
  refine bind_congr fun arrays => bind_congr fun command => bind_congr fun _ =>
    bind_congr fun table => ?_
  rw [funext (q.paramsByCount_eq s arrays), funext (q.resultByCount_eq s arrays)]
  cases FieldSpec.buildAll q.params with
  | error failure => rfl
  | ok params =>
      cases FieldSpec.buildAll q.columns with
      | error failure => rfl
      | ok columns => rfl

end QueryBinding
