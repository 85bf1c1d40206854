import QueryBinding.Binding.Basic
import QueryBinding.Go.Name
import QueryBinding.Go.Layout
import QueryBinding.Text.Words

/-! # Arguments

The arguments a generated method takes for its parameters, and the expressions over them that the
method hands to the driver. The expression for a parameter names the argument it was given in, or
selects a field of the one argument that holds all of them. -/

namespace QueryBinding

/-- A name and the text of its type: an argument of a method, or a field of a struct. -/
structure Argument where
  name : String
  type : String
deriving DecidableEq, Repr

def Field.argument (f : Field) : Argument := ⟨Go.escape (Text.lowerFirst f.name), f.type.text⟩

@[simp] theorem Field.argument_name (f : Field) :
    f.argument.name = Go.escape (Text.lowerFirst f.name) := by
  rw [argument]

/-- The function that adapts a value for a driver without lists of its own, if the value needs it.
Values that are expanded into the query are passed as they are. -/
def ArraySupport.adapterFor (arrays : ArraySupport) (type : GoType) (spread : Bool) :
    Option String :=
  if type.isList && !spread && arrays.needsAdapter then some arrays.adapter else none

def adapted (adapter : Option String) (expression : String) : String :=
  match adapter with
  | some function => function ++ "(" ++ expression ++ ")"
  | none => expression

@[simp] theorem adapted_none (expression : String) : adapted none expression = expression := rfl

@[simp] theorem adapted_some (function expression : String) :
    adapted (some function) expression = function ++ "(" ++ expression ++ ")" := rfl

structure BoundParam where
  expression : String
  adapter : Option String
deriving DecidableEq, Repr

def BoundParam.text (p : BoundParam) : String := adapted p.adapter p.expression

namespace Binding

/-- The arguments of a method for this binding. A record that is no struct gives one for each
field, under the field's name with its first word in lower case. -/
def arguments (b : Binding) : List Argument :=
  match b.content with
  | .empty => []
  | .scalar field => [⟨Go.escape field.name, field.type.text⟩]
  | .record varName record =>
    if b.asStruct then
      [⟨Go.escape varName, if b.byPointer then "*" ++ record.name else record.name⟩]
    else record.fields.map fun f => ⟨Go.escape (Text.lowerFirst f.name), f.type.text⟩

def signature (b : Binding) : String :=
  ",".intercalate (b.arguments.map fun a => a.name ++ " " ++ a.type)

/-- The value as one slice, which is how methods that work on batches take it. -/
def sliceSignature (b : Binding) : String :=
  match b.passedTypeText with
  | .ok type => b.varName ++ " []" ++ type
  | .error .noType => ""

def returned (b : Binding) : String :=
  if b.isPointer then "&" ++ Go.escape b.varName else Go.escape b.varName

def reading (b : Binding) (field : Field) : String :=
  match b.content with
  | .record varName _ =>
    if b.asStruct then varName ++ "." ++ field.name else Text.lowerFirst field.name
  | _ => b.varName

def boundParams (b : Binding) : List BoundParam :=
  b.fields.map fun f => ⟨Go.escape (b.reading f), b.arrays.adapterFor f.type f.spread⟩

def params (b : Binding) : String := Go.callLayout (b.boundParams.map BoundParam.text)

def hasSlices (b : Binding) : Bool :=
  match b.content with
  | .empty => false
  | .scalar field => field.spread
  | .record _ record => record.hasSpread

section Shapes

variable (f : Field) (owner : String) (r : Record) (asStruct byPointer : Bool)
variable (arrays : ArraySupport)

@[simp] theorem arguments_empty : arguments ⟨.empty, asStruct, byPointer, arrays⟩ = [] := rfl

@[simp] theorem arguments_scalar :
    arguments ⟨.scalar f, asStruct, byPointer, arrays⟩ = [⟨Go.escape f.name, f.type.text⟩] := rfl

@[simp] theorem arguments_record :
    arguments ⟨.record owner r, asStruct, byPointer, arrays⟩ =
      if asStruct then [⟨Go.escape owner, if byPointer then "*" ++ r.name else r.name⟩]
      else r.fields.map Field.argument := rfl

@[simp] theorem returned_scalar :
    returned ⟨.scalar f, asStruct, byPointer, arrays⟩ = Go.escape f.name := by
  cases byPointer <;> rfl

@[simp] theorem returned_record :
    returned ⟨.record owner r, asStruct, byPointer, arrays⟩ =
      if byPointer then "&" ++ Go.escape owner else Go.escape owner := by
  cases byPointer <;> rfl

@[simp] theorem boundParams_empty : boundParams ⟨.empty, asStruct, byPointer, arrays⟩ = [] := rfl

@[simp] theorem boundParams_scalar :
    boundParams ⟨.scalar f, asStruct, byPointer, arrays⟩ =
      [⟨Go.escape f.name, arrays.adapterFor f.type f.spread⟩] := rfl

@[simp] theorem hasSlices_empty : hasSlices ⟨.empty, asStruct, byPointer, arrays⟩ = false := rfl

@[simp] theorem hasSlices_scalar :
    hasSlices ⟨.scalar f, asStruct, byPointer, arrays⟩ = f.spread := rfl

@[simp] theorem hasSlices_record :
    hasSlices ⟨.record owner r, asStruct, byPointer, arrays⟩ = r.fields.any (·.spread) := rfl

end Shapes

end Binding

end QueryBinding
