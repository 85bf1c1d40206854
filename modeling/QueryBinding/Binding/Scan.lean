import QueryBinding.Binding.Arguments

/-! # Scan destinations

Where the columns of a row go: one destination for each column, in the order of the columns. The
columns of a table that may be absent go straight into the row's struct, or into scratch variables
that can hold NULL, as the settings of the run say. -/

namespace QueryBinding

/-- The variable that one column of a nullable embed is scanned into. -/
structure Scratch where
  owner : String
  field : String
  column : String
deriving DecidableEq, Repr

def Scratch.name (s : Scratch) : String := s.owner ++ "Embed" ++ s.field ++ s.column

@[simp] theorem Scratch.name_mk (owner field column : String) :
    (mk owner field column).name = owner ++ "Embed" ++ field ++ column := rfl

inductive Place where
  | var (name : String)
  | slot (owner field : String)
  | embedded (owner field column : String)
  | scratch (scratch : Scratch)
deriving DecidableEq, Repr

def Place.text : Place → String
  | var name => name
  | slot owner field => owner ++ "." ++ field
  | embedded owner field column => owner ++ "." ++ field ++ "." ++ column
  | scratch s => s.name

namespace Place

@[simp] theorem text_var (name : String) : (var name).text = name := rfl

@[simp] theorem text_slot (owner field : String) :
    (slot owner field).text = owner ++ "." ++ field := rfl

@[simp] theorem text_embedded (owner field column : String) :
    (embedded owner field column).text = owner ++ "." ++ field ++ "." ++ column := rfl

@[simp] theorem text_scratch (s : Scratch) : (scratch s).text = s.name := rfl

end Place

structure Destination where
  column : Column
  place : Place
  adapter : Option String
deriving DecidableEq, Repr

def Destination.text (d : Destination) : String := adapted d.adapter ("&" ++ d.place.text)

/-- The destination of a column. Whether a column is expanded as a parameter plays no part here. -/
def ArraySupport.destination (arrays : ArraySupport) (column : Column) (place : Place) :
    Destination :=
  ⟨column, place, arrays.adapterFor column.type false⟩

@[simp] theorem ArraySupport.place_destination (arrays : ArraySupport) (c : Column) (p : Place) :
    (arrays.destination c p).place = p := rfl

/-- The destinations of a record's field; `separate` scans nullable embeds into scratch
variables. -/
def ArraySupport.fieldDestinations (arrays : ArraySupport) (owner : String) (separate : Bool)
    (f : Field) : List Destination :=
  match f.embed with
  | none => [arrays.destination f.toColumn (.slot owner f.name)]
  | some e =>
    if e.nullable && separate then
      e.columns.map fun c => arrays.destination c (.scratch ⟨owner, f.name, c.name⟩)
    else e.columns.map fun c => arrays.destination c (.embedded owner f.name c.name)

namespace Binding

/-- The destinations of a row's columns, in order. -/
def destinations (b : Binding) (separate : Bool) : List Destination :=
  match b.content with
  | .empty => []
  | .scalar field => [b.arrays.destination field.toColumn (.var field.name)]
  | .record varName record =>
    record.fields.flatMap (b.arrays.fieldDestinations varName separate)

@[simp] theorem destinations_empty (asStruct byPointer : Bool) (arrays : ArraySupport)
    (separate : Bool) : destinations ⟨.empty, asStruct, byPointer, arrays⟩ separate = [] := rfl

@[simp] theorem destinations_scalar (f : Field) (asStruct byPointer : Bool) (arrays : ArraySupport)
    (separate : Bool) : destinations ⟨.scalar f, asStruct, byPointer, arrays⟩ separate =
      [arrays.destination f.toColumn (.var f.name)] := rfl

@[simp] theorem destinations_record (owner : String) (r : Record) (asStruct byPointer : Bool)
    (arrays : ArraySupport) (separate : Bool) :
    destinations ⟨.record owner r, asStruct, byPointer, arrays⟩ separate =
      r.fields.flatMap (arrays.fieldDestinations owner separate) := rfl

def scan (b : Binding) (separate : Bool) : String :=
  Go.callLayout ((b.destinations separate).map Destination.text)

end Binding

end QueryBinding
