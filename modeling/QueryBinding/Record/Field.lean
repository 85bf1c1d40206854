import QueryBinding.GoType.Basic
import QueryBinding.Failure.Basic

/-! # Fields

A field of a generated struct holds one column, or the columns of a joined table. A joined table
that may be absent names the columns that tell whether it is there. Embeds do not nest, and each
has a column; the types keep both. -/

namespace QueryBinding

/-- A column and the name and type of its Go field. -/
structure Column where
  name : String
  dbName : String := ""
  type : GoType
  /-- The name in the table definition, before any escaping. -/
  declaredName : Option String := none
  /-- Whether the column stands for any number of values, expanded into the query when it runs. -/
  spread : Bool := false
deriving DecidableEq, Repr

/-- The name by which a list of columns names this one. -/
def Column.listedName (c : Column) : String :=
  match c.declaredName with
  | some name => if name = "" then c.dbName else name
  | none => c.dbName

/-- The columns of a joined table, and those of its key if the table may be absent. -/
structure Embed where
  columns : List Column
  keys : List Column
  columns_ne_nil : columns ≠ []
  keys_mem : ∀ k ∈ keys, k ∈ columns
deriving DecidableEq

/-- Whether the joined table may be absent. -/
def Embed.nullable (e : Embed) : Bool := !e.keys.isEmpty

/-- A field of a struct: a column, or an embed that is named and typed as one. -/
structure Field extends Column where
  embed : Option Embed := none
deriving DecidableEq

namespace Field

def ofColumn (c : Column) : Field := { c with }

def isEmbed (f : Field) : Bool := f.embed.isSome

/-- The embed of a field whose joined table may be absent. -/
def nullableEmbed? (f : Field) : Option Embed := f.embed.filter (·.nullable)

/-- How many columns a field takes from a row. -/
def width (f : Field) : Nat :=
  match f.embed with
  | some e => e.columns.length
  | none => 1

end Field

/-- The columns of an embed from its fields: at least one, and none of them an embed. -/
def embedColumns (embed : String) (fields : List Field) :
    Except Failure {columns : List Column // columns ≠ []} :=
  match fields with
  | [] => .error (StatementFault.emptyEmbed embed).failure
  | first :: rest =>
    match (first :: rest).find? (·.isEmbed) with
    | some nested => .error (StatementFault.nestedEmbed embed nested.name).failure
    | none => .ok ⟨(first :: rest).map (·.toColumn), by simp⟩

def keyColumn (embed : String) (columns : List Column) (key : String) :
    Except Failure {column : Column // column ∈ columns} :=
  match h : columns.find? (·.name == key) with
  | some column => .ok ⟨column, List.mem_of_find?_eq_some h⟩
  | none => .error (StatementFault.unknownKey key embed).failure

/-- The embed of a table that is always present. -/
def Embed.present (embed : String) (fields : List Field) : Except Failure Embed := do
  let columns ← embedColumns embed fields
  .ok ⟨columns.val, [], columns.property, by simp⟩

/-- The embed of a table that may be absent, with its key by the names of fields. -/
def Embed.absentable (embed : String) (fields : List Field) (keys : List String) :
    Except Failure Embed := do
  let columns ← embedColumns embed fields
  if keys.isEmpty then .error ⟨.missingKey embed, []⟩
  else
    let found ← keys.mapM (keyColumn embed columns.val)
    .ok ⟨columns.val, found.map (·.val), columns.property, by simp +contextual⟩

/-- The field of an embed. Its type is that of a struct. -/
def Field.ofEmbed (name : String) (type : GoType) (embed : Embed) : Field :=
  { name, type := type.asRecord, embed := some embed }

section OfEmbed

variable (name : String) (type : GoType) (e : Embed)

@[simp] theorem Field.name_ofEmbed : (ofEmbed name type e).name = name := rfl

@[simp] theorem Field.type_ofEmbed : (ofEmbed name type e).type = type.asRecord := rfl

@[simp] theorem Field.embed_ofEmbed : (ofEmbed name type e).embed = some e := rfl

@[simp] theorem Field.spread_ofEmbed : (ofEmbed name type e).spread = false := rfl

end OfEmbed

end QueryBinding
