import QueryBinding.Binding.Presence
import QueryBinding.Go.Expression

/-! # Reading a column back from its scratch variable

A scratch variable is declared with the type that can hold NULL in place of the column's own. The
expression that reads it back has to undo that choice of type exactly. What undoing means is told
here of the text of the expression, beside the tables that choose wrappers and conversions. -/

namespace QueryBinding

/-- The expressions that read a column of a type back from the variable declared for it. A type that
stays as it is has the variable itself. A scalar has the field of the struct that it is declared as,
and may leave out the conversion only if that field has the scalar's type already. -/
inductive GoType.ReadBack (type : GoType) (name : String) : String → Prop
  | whole : type.toNullable = type → type.ReadBack name name
  | payload {field : String} {s : Scalar} : (type.toNullable.text, field, s) ∈ Go.nullStructs →
      type = .scalar s → type.ReadBack name (name ++ "." ++ field)
  | converted {field : String} {s target : Scalar} :
      (type.toNullable.text, field, s) ∈ Go.nullStructs → type = .scalar target →
      s.isNumber = true → target.isNumber = true →
      type.ReadBack name (target.text ++ "(" ++ (name ++ "." ++ field) ++ ")")

/-- What reads a column back has the column's own type in Go. -/
theorem GoType.ReadBack.hasType {t : GoType} {name expression : String}
    (h : t.ReadBack name expression) : Go.HasType name t.toNullable expression t := by
  cases h with
  | whole same =>
      rw [same]
      exact .var
  | payload declared own =>
      subst own
      exact .field declared
  | converted declared own number number' =>
      subst own
      exact .convert (.field declared) number number'

theorem Wrapper.mem_nullStructs (w : Wrapper) :
    ((GoType.wrapper w).text, w.payload, w.payloadType) ∈ Go.nullStructs := by
  cases w <;> decide

theorem Scalar.payloadType_nullable {s : Scalar} (h : s.isConverted = false) :
    s.nullable.payloadType = s := by
  cases s <;> first | rfl | cases h

theorem Scalar.isNumber_of_isConverted {s : Scalar} (h : s.isConverted = true) :
    s.isNumber = true ∧ s.nullable.payloadType.isNumber = true := by
  cases s <;> first | exact ⟨rfl, rfl⟩ | cases h

theorem Scalar.readBack_extraction (s : Scalar) (name : String) :
    (GoType.scalar s).ReadBack name ((GoType.scalar s).extraction.text name) := by
  have declared := s.nullable.mem_nullStructs
  rw [GoType.extraction]
  split
  · next h =>
      obtain ⟨number, payload⟩ := isNumber_of_isConverted h
      simp only [Extraction.text_converted]
      exact .converted declared rfl payload number
  · next h =>
      simp only [Extraction.text_payload]
      rw [payloadType_nullable (Bool.eq_false_iff.mpr h)] at declared
      exact .payload declared rfl

theorem GoType.readBack_extraction (t : GoType) (name : String) :
    t.ReadBack name (t.extraction.text name) := by
  cases t with
  | scalar s => exact s.readBack_extraction name
  | bytes => exact .whole rfl
  | list item => exact .whole rfl
  | wrapper w => exact .whole rfl
  | null inner => exact .whole rfl
  | record name => exact .whole rfl
  | named text => exact .whole rfl

end QueryBinding
