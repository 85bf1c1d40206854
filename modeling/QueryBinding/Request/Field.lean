import QueryBinding.Request.Basic
import QueryBinding.Record.Field
import QueryBinding.GoType.Parser
import QueryBinding.Text.Words

/-! # Fields from their descriptions

A description is checked and turned into a field. The name comes first, then the embedded fields
from left to right, and the rules for embeds last; the first check that fails is the failure. -/

namespace QueryBinding

namespace FieldSpec

/-- The name in Go: the given one, or the column's name in upper camel case. -/
def goName (s : FieldSpec) : Except Failure String :=
  match s.name with
  | some name => if name ≠ "" then .ok name else derived
  | none => derived
where
  derived : Except Failure String :=
    if s.dbName ≠ "" then .ok (Text.upperCamel s.dbName)
    else .error (StatementFault.namelessField s.type).failure

def plainField (s : FieldSpec) (name : String) : Field :=
  .ofColumn
    { name
      dbName := s.dbName
      type := .parse s.type
      declaredName := s.declaredName
      spread := s.isSlice }

@[simp] theorem name_plainField (s : FieldSpec) (name : String) :
    (s.plainField name).name = name := rfl

@[simp] theorem type_plainField (s : FieldSpec) (name : String) :
    (s.plainField name).type = .parse s.type := rfl

@[simp] theorem spread_plainField (s : FieldSpec) (name : String) :
    (s.plainField name).spread = s.isSlice := rfl

@[simp] theorem embed_plainField (s : FieldSpec) (name : String) :
    (s.plainField name).embed = none := rfl

mutual

def build : FieldSpec → Except Failure Field
  | ⟨name, dbName, type, declaredName, isSlice, embed⟩ => do
    let spec : FieldSpec := ⟨name, dbName, type, declaredName, isSlice, embed⟩
    let goName ← spec.goName
    match embed with
    | none => .ok (spec.plainField goName)
    | some ⟨fields, nullable, keys⟩ => do
      let fields ← buildAll fields
      let embed ← if nullable then Embed.absentable goName fields keys
        else Embed.present goName fields
      .ok (.ofEmbed goName (.parse type) embed)

def buildAll : List FieldSpec → Except Failure (List Field)
  | [] => .ok []
  | spec :: specs => do
    let field ← build spec
    let fields ← buildAll specs
    .ok (field :: fields)

end

end FieldSpec

end QueryBinding
