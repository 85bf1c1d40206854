import QueryBinding.Proofs.GoType.Record
import QueryBinding.Proofs.Query.Parameters
import QueryBinding.Proofs.Row.Alike

/-! # Types taken for those of structs

The types of embeds are taken for those of structs before anything is bound, and all that is written
afterwards is decided by the types. Main statement: `asRecord_prints_and_unwraps_alike`, that a type
shows nothing of it, neither as it is nor without its layers, and that the fragments of a statement
would be the same if it were done with the types of all fields, or of none. -/

namespace QueryBinding

/-- The field with its type taken for that of a struct, as it is for the field of an embed. -/
def Field.recorded (f : Field) : Field := { f with type := f.type.asRecord }

def Record.recorded (r : Record) : Record := { r with fields := r.fields.map Field.recorded }

def Content.recorded : Content → Content
  | .empty => .empty
  | .scalar field => .scalar field.recorded
  | .record owner r => .record owner r.recorded

def Binding.recorded (b : Binding) : Binding := { b with content := b.content.recorded }

def Statement.recorded (s : Statement) : Statement :=
  { s with params := s.params.recorded, result := s.result.recorded }

section Fields

variable (f : Field)

@[simp] theorem Field.name_recorded : f.recorded.name = f.name := rfl

@[simp] theorem Field.type_recorded : f.recorded.type = f.type.asRecord := rfl

@[simp] theorem Field.spread_recorded : f.recorded.spread = f.spread := rfl

@[simp] theorem Field.embed_recorded : f.recorded.embed = f.embed := rfl

@[simp] theorem Field.nullableEmbed?_recorded : f.recorded.nullableEmbed? = f.nullableEmbed? := rfl

@[simp] theorem Field.scratchName_recorded (owner : String) :
    f.recorded.scratchName owner = f.scratchName owner := rfl

@[simp] theorem ArraySupport.adapterFor_asRecord (arrays : ArraySupport) (t : GoType)
    (spread : Bool) : arrays.adapterFor t.asRecord spread = arrays.adapterFor t spread := by
  simp [adapterFor]

@[simp] theorem ArraySupport.pointer_asRecord (arrays : ArraySupport) (t : GoType) (path : String) :
    arrays.pointer t.asRecord path = arrays.pointer t path := by
  simp [pointer]

namespace Field

@[simp] theorem argument_recorded : f.recorded.argument = f.argument := by
  simp [argument]

@[simp] theorem bound_recorded (arrays : ArraySupport) (owner : String) (struct : Bool) :
    f.recorded.bound arrays owner struct = f.bound arrays owner struct := by
  simp [bound, passed]

theorem text_slotType_recorded (separate : Bool) :
    (f.recorded.slotType separate).text = (f.slotType separate).text := by
  cases nullable : f.nullableEmbed? with
  | none => simp [slotType, nullable]
  | some e => cases separate <;> simp [slotType, nullable, GoType.text]

/-- The columns of an embed have types of their own, so only a plain field is scanned by its
type. -/
theorem destinations_recorded (arrays : ArraySupport) (owner : String) (separate : Bool) :
    (arrays.fieldDestinations owner separate f.recorded).map Destination.text =
      (arrays.fieldDestinations owner separate f).map Destination.text := by
  cases embed : f.embed with
  | none => simp [ArraySupport.fieldDestinations, embed]
  | some e => simp [ArraySupport.fieldDestinations, embed]

/-- The type stands in no line but that of the literal. -/
theorem presenceBlock_recorded (owner : String) (rule : PresenceRule) :
    f.recorded.presenceBlock owner rule = f.presenceBlock owner rule := by
  cases nullable : f.nullableEmbed? with
  | none => simp [presenceBlock, nullable]
  | some e =>
      have nullable' : f.recorded.nullableEmbed? = some e := by simp [nullable]
      simp [presenceBlock_eq nullable, presenceBlock_eq nullable']

theorem alike_recorded : f.recorded.Alike f where
  name := by simp
  nullableEmbed := by simp
  slotType := f.text_slotType_recorded
  destinations := f.destinations_recorded
  block := f.presenceBlock_recorded

end Field

end Fields

theorem Record.alike_recorded (r : Record) : List.Forall₂ Field.Alike r.recorded.fields r.fields :=
  List.forall₂_map_left_iff.mpr (List.forall₂_same.mpr fun f _ => f.alike_recorded)

namespace Binding

variable (owner : String) (r : Record) (f : Field) (asStruct byPointer : Bool)
variable (arrays : ArraySupport)

theorem takenAlike_scalar :
    TakenAlike ⟨.scalar f.recorded, asStruct, byPointer, arrays⟩
      ⟨.scalar f, asStruct, byPointer, arrays⟩ where
  asStruct := rfl
  arguments := by simp
  boundParams := by simp
  hasSlices := rfl
  listedNames := rfl
  structFields := rfl

theorem givenAlike_scalar :
    GivenAlike ⟨.scalar f.recorded, asStruct, byPointer, arrays⟩
      ⟨.scalar f, asStruct, byPointer, arrays⟩ where
  isEmpty := rfl
  passedTypeText := by simp
  returned := rfl
  structFields _ := rfl
  destinations _ := by simp
  hasNullableEmbed _ := rfl
  declarations := rfl
  presenceLines _ := rfl

theorem takenAlike_record :
    TakenAlike ⟨.record owner r.recorded, asStruct, byPointer, arrays⟩
      ⟨.record owner r, asStruct, byPointer, arrays⟩ where
  asStruct := rfl
  arguments := by simp [Record.recorded, Function.comp_def]
  boundParams := by simp [boundParams_record, Record.recorded, Function.comp_def]
  hasSlices := List.any_map
  listedNames := List.map_map
  structFields := structFields_alike r.alike_recorded owner r.name asStruct byPointer arrays false

theorem givenAlike_record :
    GivenAlike ⟨.record owner r.recorded, asStruct, byPointer, arrays⟩
      ⟨.record owner r, asStruct, byPointer, arrays⟩ :=
  givenAlike_of_alike r.alike_recorded owner r.name asStruct byPointer arrays

theorem takenAlike_recorded (b : Binding) : b.recorded.TakenAlike b := by
  obtain ⟨content, asStruct, byPointer, arrays⟩ := b
  cases content with
  | empty => exact .refl _
  | scalar f => exact takenAlike_scalar f asStruct byPointer arrays
  | record owner r => exact takenAlike_record owner r asStruct byPointer arrays

theorem givenAlike_recorded (b : Binding) : b.recorded.GivenAlike b := by
  obtain ⟨content, asStruct, byPointer, arrays⟩ := b
  cases content with
  | empty => exact .refl _
  | scalar f => exact givenAlike_scalar f asStruct byPointer arrays
  | record owner r => exact givenAlike_record owner r asStruct byPointer arrays

end Binding

theorem Statement.fragments_recorded (s : Statement) (separate : Bool) (dialect : Dialect) :
    s.recorded.fragments separate dialect = s.fragments separate dialect :=
  fragments_congr s.params.takenAlike_recorded s.result.givenAlike_recorded s separate dialect

/-- Taken for that of a struct, a type prints and unwraps as before: its text and its layers stay,
and all that decides how it is bound, also of what is left when any number of layers has been taken
off. Only the core may change, and does if it is a name, which becomes the struct's. No run writes
anything else for a statement whose types are all taken so. -/
theorem GoType.asRecord_prints_and_unwraps_alike :
    (∀ t : GoType,
      t.asRecord.text = t.text ∧
      t.asRecord.asRecord = t.asRecord ∧
      t.asRecord.stripNull = t.stripNull.asRecord ∧
      t.asRecord.isList = t.isList ∧ t.asRecord.isBytes = t.isBytes ∧
      t.asRecord.isNullable = t.isNullable ∧ t.asRecord.payload? = t.payload? ∧
      t.asRecord.layers = t.layers ∧
      (∀ depth, stripNull^[depth] t.asRecord = (stripNull^[depth] t).asRecord) ∧
      (∀ name, t.asRecord.core = record name ↔ t.core = named name ∨ t.core = record name) ∧
      (t.asRecord = t ↔ ∀ name, t.core ≠ named name)) ∧
    ∀ (g : Generator) (s : Statement), g.fragments s.recorded = g.fragments s := by
  constructor
  · intro t
    refine ⟨text_asRecord t, asRecord_asRecord t, stripNull_asRecord t, isList_asRecord t, ?_, ?_,
      ?_, layers_asRecord t, fun depth => iterate_stripNull_asRecord depth t, ?_,
      asRecord_eq_self_iff⟩
    · cases t <;> rfl
    · cases t <;> rfl
    · cases t <;> rfl
    · intro name
      rw [core_asRecord, asRecord_eq_record_iff]
  · intro g s
    rw [Generator.fragments, Generator.fragments, Statement.fragments_recorded]

end QueryBinding
