import QueryBinding.Settings
import QueryBinding.Table

/-! # Requests

A request holds the settings of a run and the queries to generate methods for, as query analysis
describes them. Descriptions are not checked yet; fields may nest embeds to any depth. -/

namespace QueryBinding

/-- A joined table whose columns are fields of the kind `φ`. -/
structure EmbedSpec (φ : Type) where
  fields : List φ
  /-- Whether the join may leave the table out. -/
  nullable : Bool := false
  /-- The names of the fields that make up the table's key. -/
  primaryKeys : List String := []

/-- A parameter or a column of a query. -/
structure FieldSpec where
  /-- The name in Go; if absent or empty it follows from the column's name. -/
  name : Option String := none
  dbName : String := ""
  type : String
  declaredName : Option String := none
  isSlice : Bool := false
  embed : Option (EmbedSpec FieldSpec) := none

structure QuerySpec where
  name : String
  /-- The tag that says how the query is run. -/
  command : String
  text : String
  filename : String := ""
  comments : List String := []
  params : List FieldSpec := []
  columns : List FieldSpec := []
  /-- The table a bulk insert goes to. -/
  target : Option TableName := none

structure Request where
  settings : Settings := {}
  queries : List QuerySpec := []

end QueryBinding
