/-! # Go types of columns and parameters

A Go type is known by how a value of it is bound and scanned: as a scalar, as bytes, as a list, or
as something that can hold NULL. Types the library does not tell apart keep their text. -/

namespace QueryBinding

/-- The builtin types with a fixed wrapper for NULL. -/
inductive Scalar where
  | string
  | int
  | int8
  | int16
  | int32
  | int64
  | uint8
  | uint16
  | uint32
  | uint64
  | float32
  | float64
  | bool
  | time
deriving DecidableEq, Repr

def Scalar.all : List Scalar :=
  [.string, .int, .int8, .int16, .int32, .int64, .uint8, .uint16, .uint32, .uint64,
   .float32, .float64, .bool, .time]

theorem Scalar.mem_all (s : Scalar) : s ∈ Scalar.all := by cases s <;> decide

def Scalar.text : Scalar → String
  | .string => "string"
  | .int => "int"
  | .int8 => "int8"
  | .int16 => "int16"
  | .int32 => "int32"
  | .int64 => "int64"
  | .uint8 => "uint8"
  | .uint16 => "uint16"
  | .uint32 => "uint32"
  | .uint64 => "uint64"
  | .float32 => "float32"
  | .float64 => "float64"
  | .bool => "bool"
  | .time => "time.Time"

/-- The wrappers `sql.NullString`, `sql.NullByte`, … that hold one payload or NULL. -/
inductive Wrapper where
  | string
  | byte
  | int16
  | int32
  | int64
  | float64
  | bool
  | time
deriving DecidableEq, Repr

def Wrapper.all : List Wrapper :=
  [.string, .byte, .int16, .int32, .int64, .float64, .bool, .time]

theorem Wrapper.mem_all (w : Wrapper) : w ∈ Wrapper.all := by cases w <;> decide

/-- The name of the field that holds a wrapper's payload. -/
def Wrapper.payload : Wrapper → String
  | .string => "String"
  | .byte => "Byte"
  | .int16 => "Int16"
  | .int32 => "Int32"
  | .int64 => "Int64"
  | .float64 => "Float64"
  | .bool => "Bool"
  | .time => "Time"

/-- The Go type of a wrapper's payload. -/
def Wrapper.payloadType : Wrapper → Scalar
  | .string => .string
  | .byte => .uint8
  | .int16 => .int16
  | .int32 => .int32
  | .int64 => .int64
  | .float64 => .float64
  | .bool => .bool
  | .time => .time

/-- A Go type, told apart as far as binding and scanning depend on it. -/
inductive GoType where
  | scalar (kind : Scalar)
  /-- `[]byte`: a slice in Go, yet bound as one value. -/
  | bytes
  /-- `[]T` for an item type `T` other than `byte`. -/
  | list (item : GoType)
  /-- A fixed wrapper that holds one payload or NULL. -/
  | wrapper (kind : Wrapper)
  /-- `sql.Null[T]`. -/
  | null (inner : GoType)
  /-- A generated struct. -/
  | record (name : String)
  /-- Any other type, kept as written. -/
  | named (text : String)
deriving DecidableEq, Repr

namespace GoType

def text : GoType → String
  | scalar s => s.text
  | bytes => "[]byte"
  | list item => "[]" ++ item.text
  | wrapper w => "sql.Null" ++ w.payload
  | null inner => "sql.Null[" ++ inner.text ++ "]"
  | record name => name
  | named text => text

/-- Slices that a driver has to encode as arrays; bytes are none of them. -/
def isList : GoType → Bool
  | list _ => true
  | _ => false

def isBytes : GoType → Bool
  | bytes => true
  | _ => false

/-- Types that say whether they hold NULL. -/
def isNullable : GoType → Bool
  | wrapper _ => true
  | null _ => true
  | _ => false

def payload? : GoType → Option String
  | wrapper w => some w.payload
  | null _ => some "V"
  | _ => none

/-- The type without its outermost `sql.Null[T]`. Only one layer is removed. -/
def stripNull : GoType → GoType
  | null inner => inner
  | t => t

/-- The type of an embedded table: a name, also inside `sql.Null[T]`, is that of a struct. -/
def asRecord : GoType → GoType
  | named text => record text
  | null inner => null inner.asRecord
  | t => t

end GoType

/-- The narrowest wrapper for a scalar. A width without a wrapper of its own takes the next wider
one, and `int` shares that of `int32`. -/
def Scalar.nullable : Scalar → Wrapper
  | .string => .string
  | .uint8 => .byte
  | .int8 | .int16 => .int16
  | .int | .int32 | .uint16 => .int32
  | .int64 | .uint32 | .uint64 => .int64
  | .float32 | .float64 => .float64
  | .bool => .bool
  | .time => .time

/-- The counterpart of a type that can hold NULL: scalars get their wrapper, all other types are
expected to hold NULL on their own. -/
def GoType.toNullable : GoType → GoType
  | .scalar s => .wrapper s.nullable
  | t => t

end QueryBinding
