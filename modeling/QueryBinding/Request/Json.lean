import QueryBinding.Request.Basic
import QueryBinding.Json.Codec

/-! # Requests as JSON

The shape of each part of a request: the names of its members, which of them are required, and what
stands for those that are absent. -/

namespace QueryBinding

def TableName.shape : Shape TableName where
  name := "Identifier"
  absent := {}
  members :=
    [ .of "catalog" false (.optional .text) (·.catalog) fun v t => { t with catalog := v },
      .of "schema" false (.optional .text) (·.schema) fun v t => { t with schema := v },
      .of "name" false (.optional .text) (·.name) fun v t => { t with name := v } ]

def Package.codec : Codec Package := .choice Package.all Package.path

def Driver.codec : Codec Driver := .choice Driver.all Driver.path

def Settings.shape : Shape Settings where
  name := "Options"
  absent := {}
  members :=
    [ .of "sql_package" false Package.codec (·.package) fun v s => { s with package := v },
      .of "sql_driver" false (.optional Driver.codec) (·.chosenDriver)
        fun v s => { s with chosenDriver := v },
      .of "emit_embed_nullable_left_join" false .flag (·.nullableEmbeds)
        fun v s => { s with nullableEmbeds := v },
      .of "emit_params_struct_pointers" false .flag (·.paramsByPointer)
        fun v s => { s with paramsByPointer := v },
      .of "emit_result_struct_pointers" false .flag (·.resultsByPointer)
        fun v s => { s with resultsByPointer := v },
      .of "query_parameter_limit" false (.optional .size) (·.parameterLimit)
        fun v s => { s with parameterLimit := v } ]

/-- The shape of an embed whose fields have a codec. -/
def EmbedSpec.shape {φ : Type} (field : Codec φ) : Shape (EmbedSpec φ) where
  name := "Embed"
  absent := { fields := [] }
  members :=
    [ .of "fields" true (.list field) (·.fields) fun v e => { e with fields := v },
      .of "nullable" false .flag (·.nullable) fun v e => { e with nullable := v },
      .of "primary_keys" false (.list .text) (·.primaryKeys)
        fun v e => { e with primaryKeys := v } ]

/-- The shape of a field whose embeds have a codec. -/
def FieldSpec.shapeWith (embed : Codec (EmbedSpec FieldSpec)) : Shape FieldSpec where
  name := "Field"
  absent := { type := "" }
  members :=
    [ .of "name" false (.optional .text) (·.name) fun v f => { f with name := v },
      .of "db_name" false .text (·.dbName) fun v f => { f with dbName := v },
      .of "type" true .text (·.type) fun v f => { f with type := v },
      .of "original_name" false (.optional .text) (·.declaredName)
        fun v f => { f with declaredName := v },
      .of "is_sqlc_slice" false .flag (·.isSlice) fun v f => { f with isSlice := v },
      .of "embed" false (.optional embed) (·.embed) fun v f => { f with embed := v } ]

/-- A codec for what nests deeper than any text that can be read. -/
def Codec.beyond {α : Type} : Codec α where
  read _ := .error (.fault .malformed)
  write _ := .null

/-- The codec of fields that nest embeds no deeper than `depth`. -/
def FieldSpec.codecTo : (depth : Nat) → Codec FieldSpec
  | 0 => (FieldSpec.shapeWith .beyond).codec
  | depth + 1 => (FieldSpec.shapeWith (EmbedSpec.shape (FieldSpec.codecTo depth)).codec).codec

/-- The codec of fields. An embed opens a bracket at least, so that no readable text nests deeper. -/
def FieldSpec.codec : Codec FieldSpec := FieldSpec.codecTo JsonReader.deepest

def QuerySpec.shape : Shape QuerySpec where
  name := "Query"
  absent := { name := "", command := "", text := "" }
  members :=
    [ .of "name" true .text (·.name) fun v q => { q with name := v },
      .of "cmd" true .text (·.command) fun v q => { q with command := v },
      .of "text" true .text (·.text) fun v q => { q with text := v },
      .of "filename" false .text (·.filename) fun v q => { q with filename := v },
      .of "comments" false (.list .text) (·.comments) fun v q => { q with comments := v },
      .of "params" false (.list FieldSpec.codec) (·.params) fun v q => { q with params := v },
      .of "columns" false (.list FieldSpec.codec) (·.columns) fun v q => { q with columns := v },
      .of "insert_into_table" false (.optional TableName.shape.codec) (·.target)
        fun v q => { q with target := v } ]

def Request.shape : Shape Request where
  name := "Request"
  absent := {}
  members :=
    [ .of "options" false Settings.shape.codec (·.settings) fun v r => { r with settings := v },
      .of "queries" false (.list QuerySpec.shape.codec) (·.queries)
        fun v r => { r with queries := v } ]

def Settings.ofText (text : String) : Except Refusal Settings := Settings.shape.codec.ofText text

def QuerySpec.ofText (text : String) : Except Refusal QuerySpec := QuerySpec.shape.codec.ofText text

def QuerySpec.listOfText (text : String) : Except Refusal (List QuerySpec) :=
  (Codec.list QuerySpec.shape.codec).ofText text

def Request.ofText (text : String) : Except Refusal Request := Request.shape.codec.ofText text

def Request.toText (r : Request) : String := Request.shape.codec.toText r

end QueryBinding
