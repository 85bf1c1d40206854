import QueryBinding.Binding.Scan

/-! # Nullable embeds after a scan

The scratch variables of nullable embeds are declared before a row is scanned, and moved into the
row's struct after it: if the key of a joined table is there, its slot becomes valid and each of its
columns is read back out of its scratch variable in the type the struct declares. -/

namespace QueryBinding

structure Declaration where
  scratch : Scratch
  type : GoType
deriving DecidableEq, Repr

def Declaration.text (d : Declaration) : String := "var " ++ d.scratch.name ++ " " ++ d.type.text

/-- How the value of a scratch variable is read back. -/
inductive Extraction where
  /-- The variable itself, whose type is the declared one. -/
  | whole
  | payload (wrapper : Wrapper)
  | converted (target : Scalar) (wrapper : Wrapper)
deriving DecidableEq, Repr

/-- Whether the payload of a scalar's wrapper is written with a conversion. -/
def Scalar.isConverted : Scalar → Bool
  | .int | .int8 | .int32 | .uint8 | .uint16 | .uint32 | .uint64 | .float32 => true
  | .string | .int16 | .int64 | .float64 | .bool | .time => false

def GoType.extraction : GoType → Extraction
  | .scalar s => if s.isConverted then .converted s s.nullable else .payload s.nullable
  | _ => .whole

def Extraction.text (varName : String) : Extraction → String
  | whole => varName
  | payload wrapper => varName ++ "." ++ wrapper.payload
  | converted target wrapper => target.text ++ "(" ++ varName ++ "." ++ wrapper.payload ++ ")"

namespace Extraction

@[simp] theorem text_whole (name : String) : whole.text name = name := rfl

@[simp] theorem text_payload (name : String) (w : Wrapper) :
    (payload w).text name = name ++ "." ++ w.payload := rfl

@[simp] theorem text_converted (name : String) (s : Scalar) (w : Wrapper) :
    (converted s w).text name = s.text ++ "(" ++ (name ++ "." ++ w.payload) ++ ")" := by
  simp only [text, String.append_assoc]

end Extraction

/-- When a joined table counts as present. -/
inductive PresenceRule where
  /-- Some column of its key is not NULL. -/
  | anyKey
  /-- Every column of its key is not NULL. -/
  | allKeys
deriving DecidableEq, Repr

def PresenceRule.operator : PresenceRule → String
  | anyKey => " || "
  | allKeys => " && "

/-- What a guard says, given which of its tests hold. -/
def PresenceRule.holds : PresenceRule → List Bool → Bool
  | anyKey, tests => tests.any id
  | allKeys, tests => tests.all id

structure Initializer where
  column : Column
  scratch : Scratch
deriving DecidableEq, Repr

structure Materialization where
  owner : String
  field : String
  type : GoType
  keys : List Scratch
  initializers : List Initializer
deriving DecidableEq, Repr

def Materialization.slot (m : Materialization) : String := (Place.slot m.owner m.field).text

def Materialization.guard (m : Materialization) (rule : PresenceRule) : String :=
  rule.operator.intercalate (m.keys.map fun s => s.name ++ ".Valid")

def Initializer.line (i : Initializer) : String :=
  "        " ++ i.column.name ++ ": " ++ i.column.type.extraction.text i.scratch.name ++ ","

def Materialization.lines (m : Materialization) (rule : PresenceRule) : List String :=
  ["if " ++ m.guard rule ++ " \x7b",
   "    " ++ m.slot ++ ".Valid = true",
   "    " ++ m.slot ++ ".V = " ++ m.type.text ++ "\x7b"] ++
    m.initializers.map Initializer.line ++ ["    \x7d", "\x7d"]

def Field.declarations (owner : String) (f : Field) (e : Embed) : List Declaration :=
  e.columns.map fun c => ⟨⟨owner, f.name, c.name⟩, c.type.toNullable⟩

def Field.materialization (owner : String) (f : Field) (e : Embed) : Materialization where
  owner := owner
  field := f.name
  type := f.type.stripNull
  keys := e.keys.map fun c => ⟨owner, f.name, c.name⟩
  initializers := e.columns.map fun c => ⟨c, ⟨owner, f.name, c.name⟩⟩

namespace Binding

def nullableEmbeds (b : Binding) : List (Field × Embed) :=
  match b.record? with
  | some record => record.nullableEmbeds
  | none => []

@[simp] theorem nullableEmbeds_record (owner : String) (r : Record) (asStruct byPointer : Bool)
    (arrays : ArraySupport) :
    nullableEmbeds ⟨.record owner r, asStruct, byPointer, arrays⟩ = r.nullableEmbeds := rfl

/-- Whether nullable embeds go through scratch variables. -/
def hasNullableEmbed (b : Binding) (separate : Bool) : Bool :=
  separate && !b.nullableEmbeds.isEmpty

def declarations (b : Binding) : List Declaration :=
  b.nullableEmbeds.flatMap fun (f, e) => f.declarations b.varName e

def materializations (b : Binding) : List Materialization :=
  b.nullableEmbeds.map fun (f, e) => f.materialization b.varName e

def scratchLines (b : Binding) : List String := b.declarations.map Declaration.text

def presenceLines (b : Binding) (rule : PresenceRule) : List String :=
  b.materializations.flatMap (·.lines rule)

end Binding

end QueryBinding
