import QueryBinding.GoType.Range

/-! # Expressions of Go over one variable

The expressions that read a value out of a variable: the variable, a field of the struct it is, and
a conversion between numbers. Their types and values are told of their text, given the type that the
variable is declared with. -/

namespace QueryBinding

/-- The scalars that Go converts into one another. -/
def Scalar.isNumber : Scalar → Bool
  | .string | .bool | .time => false
  | _ => true

namespace Go

/-- The structs of `database/sql` that hold a value of a fixed type or NULL: the name of the struct,
and the name and type of the field with the value. -/
def nullStructs : List (String × String × Scalar) :=
  [("sql.NullString", "String", .string), ("sql.NullByte", "Byte", .uint8),
   ("sql.NullInt16", "Int16", .int16), ("sql.NullInt32", "Int32", .int32),
   ("sql.NullInt64", "Int64", .int64), ("sql.NullFloat64", "Float64", .float64),
   ("sql.NullBool", "Bool", .bool), ("sql.NullTime", "Time", .time)]

/-- Go's typing of the expressions over a variable of a declared type. -/
inductive HasType (name : String) (declared : GoType) : String → GoType → Prop
  | var : HasType name declared name declared
  | field {field : String} {s : Scalar} : (declared.text, field, s) ∈ nullStructs →
      HasType name declared (name ++ "." ++ field) (.scalar s)
  | convert {expression : String} {s target : Scalar} :
      HasType name declared expression (.scalar s) → s.isNumber = true → target.isNumber = true →
      HasType name declared (target.text ++ "(" ++ expression ++ ")") (.scalar target)

/-- The integers that expressions give over a variable with an integer for its value: a conversion
wraps what its target cannot hold. -/
inductive Gives (name : String) (declared : GoType) (value : Int) : String → Int → Prop
  | field {field : String} {s : Scalar} : (declared.text, field, s) ∈ nullStructs →
      Gives name declared value (name ++ "." ++ field) value
  | convert {expression : String} {n : Int} {target : Scalar} {range : IntRange} :
      Gives name declared value expression n → target.range? = some range →
      Gives name declared value (target.text ++ "(" ++ expression ++ ")") (range.wrap n)

end Go

end QueryBinding
