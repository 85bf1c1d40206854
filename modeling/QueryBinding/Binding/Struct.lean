import QueryBinding.Binding.Arguments
import QueryBinding.Go.Literal

/-! # Structs and columns

The fields of the struct generated for a record, and the names of the columns behind a binding. -/

namespace QueryBinding

/-- The type of a field's slot. The slot of a nullable embed is `sql.Null[T]` exactly if such
embeds go through scratch variables. -/
def Field.slotType (f : Field) (separate : Bool) : GoType :=
  match f.nullableEmbed? with
  | some _ => if separate then .null f.type.stripNull else f.type.stripNull
  | none => f.type

namespace Binding

/-- The fields of the bound record's struct, the first of each name; none without a record. -/
def uniqueFields (b : Binding) : List Field :=
  match b.record? with
  | some record => record.uniqueFields
  | none => []

@[simp] theorem uniqueFields_record (owner : String) (r : Record) (asStruct byPointer : Bool)
    (arrays : ArraySupport) :
    uniqueFields ⟨.record owner r, asStruct, byPointer, arrays⟩ = r.uniqueFields := rfl

def structFields (b : Binding) (separate : Bool) : List Argument :=
  b.uniqueFields.map fun f => ⟨f.name, (f.slotType separate).text⟩

@[simp] theorem structFields_empty (asStruct byPointer : Bool) (arrays : ArraySupport)
    (separate : Bool) : structFields ⟨.empty, asStruct, byPointer, arrays⟩ separate = [] := rfl

@[simp] theorem structFields_scalar (f : Field) (asStruct byPointer : Bool) (arrays : ArraySupport)
    (separate : Bool) : structFields ⟨.scalar f, asStruct, byPointer, arrays⟩ separate = [] := rfl

def columnNames (b : Binding) : List String := b.fields.map (·.dbName)

/-- The names by which a bulk insert lists the columns. A single value is listed by its column's
name, a record by the names its fields have in the table definition. -/
def listedNames (b : Binding) : List String :=
  match b.content with
  | .empty => []
  | .scalar field => [field.dbName]
  | .record _ record => record.fields.map (·.listedName)

def listedNamesText (b : Binding) : String := Go.stringSlice b.listedNames

end Binding

end QueryBinding
