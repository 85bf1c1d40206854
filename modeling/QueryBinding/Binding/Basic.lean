import QueryBinding.Record.Basic
import QueryBinding.Driver

/-! # Bindings

A binding is what a query takes as parameters or gives as its result: nothing, one value, or a
record. Everything that is written about it follows from the binding; nothing else is remembered. -/

namespace QueryBinding

inductive Content where
  | empty
  /-- One value; the field's name is the variable that holds it. -/
  | scalar (field : Field)
  | record (varName : String) (record : Record)
deriving DecidableEq

structure Binding where
  content : Content
  /-- Whether a record is passed as one struct, and not field by field. -/
  asStruct : Bool := false
  /-- Whether a record is passed by pointer; other bindings never are. -/
  byPointer : Bool := false
  arrays : ArraySupport
deriving DecidableEq

/-- A question that a binding has no answer to. -/
inductive Misuse where
  | noType
deriving DecidableEq, Repr

def Misuse.message : Misuse → String
  | noType => "no type for empty value"

namespace Binding

@[simp] def ofNothing (arrays : ArraySupport) : Binding := { content := .empty, arrays }

@[simp] def ofField (field : Field) (arrays : ArraySupport) : Binding :=
  { content := .scalar field, arrays }

/-- The binding of a record, passed as one struct. -/
@[simp] def ofRecord (varName : String) (record : Record) (arrays : ArraySupport) : Binding :=
  { content := .record varName record, asStruct := true, arrays }

/-- The variable of a binding; no text for no variable. -/
def varName (b : Binding) : String :=
  match b.content with
  | .empty => ""
  | .scalar field => field.name
  | .record varName _ => varName

def isEmpty (b : Binding) : Bool :=
  match b.content with
  | .empty => true
  | _ => false

def record? (b : Binding) : Option Record :=
  match b.content with
  | .record _ record => some record
  | _ => none

def isRecord (b : Binding) : Bool := b.record?.isSome

def isPointer (b : Binding) : Bool := b.byPointer && b.isRecord

/-- The fields of what is bound; a single value is its own field. -/
def fields (b : Binding) : List Field :=
  match b.content with
  | .empty => []
  | .scalar field => [field]
  | .record _ record => record.fields

/-- The type of the value: that of the scalar, or the name of the record's struct. -/
def typeText (b : Binding) : Except Misuse String :=
  match b.content with
  | .empty => .error .noType
  | .scalar field => .ok field.type.text
  | .record _ record => .ok record.name

def passedTypeText (b : Binding) : Except Misuse String :=
  b.typeText.map fun text => if b.isPointer then "*" ++ text else text

section Shapes

variable (f : Field) (owner : String) (r : Record) (asStruct byPointer : Bool)
variable (arrays : ArraySupport)

@[simp] theorem isEmpty_empty : isEmpty ⟨.empty, asStruct, byPointer, arrays⟩ = true := rfl

@[simp] theorem isEmpty_scalar : isEmpty ⟨.scalar f, asStruct, byPointer, arrays⟩ = false := rfl

@[simp] theorem isEmpty_record :
    isEmpty ⟨.record owner r, asStruct, byPointer, arrays⟩ = false := rfl

@[simp] theorem varName_scalar :
    varName ⟨.scalar f, asStruct, byPointer, arrays⟩ = f.name := rfl

@[simp] theorem varName_record :
    varName ⟨.record owner r, asStruct, byPointer, arrays⟩ = owner := rfl

@[simp] theorem record?_empty : record? ⟨.empty, asStruct, byPointer, arrays⟩ = none := rfl

@[simp] theorem record?_scalar : record? ⟨.scalar f, asStruct, byPointer, arrays⟩ = none := rfl

@[simp] theorem record?_record :
    record? ⟨.record owner r, asStruct, byPointer, arrays⟩ = some r := rfl

@[simp] theorem fields_empty : fields ⟨.empty, asStruct, byPointer, arrays⟩ = [] := rfl

@[simp] theorem fields_scalar : fields ⟨.scalar f, asStruct, byPointer, arrays⟩ = [f] := rfl

@[simp] theorem fields_record :
    fields ⟨.record owner r, asStruct, byPointer, arrays⟩ = r.fields := rfl

@[simp] theorem passedTypeText_scalar :
    passedTypeText ⟨.scalar f, asStruct, byPointer, arrays⟩ = .ok f.type.text := by
  cases byPointer <;> rfl

@[simp] theorem passedTypeText_record :
    passedTypeText ⟨.record owner r, asStruct, byPointer, arrays⟩ =
      .ok (if byPointer then "*" ++ r.name else r.name) := by
  cases byPointer <;> rfl

end Shapes

end Binding

end QueryBinding
