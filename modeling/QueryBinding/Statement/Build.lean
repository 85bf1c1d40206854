import QueryBinding.Statement.Basic
import QueryBinding.Request.Field

/-! # Statements from queries

A query is checked in a fixed order: the settings, the command, the name, the target table, the
parameters and the columns. The first check that fails is the failure; a failure of a parameter or
a column says where it arose. -/

namespace QueryBinding

def paramsVariable : String := "arg"

def rowVariable : String := "i"

/-- A field whose name is that of a variable. -/
def Field.asVariable (f : Field) : Field := { f with name := Text.lowerFirst f.name }

namespace Field

variable (f : Field)

@[simp] theorem name_asVariable : f.asVariable.name = Text.lowerFirst f.name := rfl

@[simp] theorem dbName_asVariable : f.asVariable.dbName = f.dbName := rfl

@[simp] theorem type_asVariable : f.asVariable.type = f.type := rfl

@[simp] theorem spread_asVariable : f.asVariable.spread = f.spread := rfl

end Field

namespace QuerySpec

def knownCommand (q : QuerySpec) : Except Failure Command :=
  match Command.ofTag? q.command with
  | some command => .ok command
  | none => .error (StatementFault.unknownCommand q.command).failure

def checkName (q : QuerySpec) : Except Failure Unit :=
  if q.name = "" then .error StatementFault.namelessQuery.failure else .ok ()

/-- The target of a bulk insert; other commands have none. -/
def table (q : QuerySpec) (command : Command) : Except Failure (Option TableName) :=
  match command, q.target with
  | .copyFrom, none => .error (StatementFault.missingTarget q.name).failure
  | .copyFrom, some target => .ok (some target)
  | _, _ => .ok none

/-- The binding of the parameters: a single one stands for itself unless none may, and more become
a record, which is a struct if they exceed the limit. -/
def paramsBinding (q : QuerySpec) (s : Settings) (arrays : ArraySupport) :
    List Field → Binding
  | [] => .ofNothing arrays
  | first :: rest =>
    if rest = [] ∧ s.parameterLimit ≠ some 0 then .ofField first.asVariable arrays
    else
      { Binding.ofRecord paramsVariable ⟨q.name ++ "Params", first :: rest⟩ arrays with
        asStruct := s.exceedsLimit (first :: rest).length
        byPointer := s.paramsByPointer }

/-- The binding of a row: a single column stands for itself, and all else becomes a record. -/
def resultBinding (q : QuerySpec) (s : Settings) (arrays : ArraySupport) :
    List Field → Binding
  | [] => .ofNothing arrays
  | first :: rest =>
    if rest = [] ∧ ¬ first.isEmbed then .ofField first.asVariable arrays
    else
      { Binding.ofRecord rowVariable ⟨q.name ++ "Row", first :: rest⟩ arrays with
        byPointer := s.resultsByPointer }

def paramFields (q : QuerySpec) : Except Failure (List Field) :=
  (FieldSpec.buildAll q.params).mapError (·.noted ("parameters of " ++ q.name))

def columnFields (q : QuerySpec) : Except Failure (List Field) :=
  (FieldSpec.buildAll q.columns).mapError (·.noted ("result of " ++ q.name))

end QuerySpec

def Statement.ofQuery (s : Settings) (q : QuerySpec) : Except Failure Statement := do
  let arrays ← s.arrays
  let command ← q.knownCommand
  q.checkName
  let table ← q.table command
  let params ← q.paramFields
  let columns ← q.columnFields
  let constantName := Text.lowerFirst q.name
  .ok
    { command
      comments := q.comments
      methodName := q.name
      fieldName := constantName ++ "Stmt"
      constantName
      sql := q.text
      sourceName := q.filename
      params := q.paramsBinding s arrays params
      result := q.resultBinding s arrays columns
      table }

end QueryBinding
