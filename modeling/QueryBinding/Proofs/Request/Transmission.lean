import QueryBinding.Proofs.Fragments.Lossless
import QueryBinding.Proofs.Query.Faults
import QueryBinding.Proofs.Request.Codecs

/-! # Requests are handed over whole

A request is handed over as JSON: each structure as an object of its members in order, and null for
what is absent. However that JSON is spelled, it is read as the request again, as long as its
brackets do not go deeper than the reader follows. Main statement: `ofText_of_json`. -/

namespace QueryBinding

def TableName.json (t : TableName) : Json :=
  .object
    [ ("catalog", .ofText? t.catalog),
      ("schema", .ofText? t.schema),
      ("name", .ofText? t.name) ]

/-- No limit is written as null; an absent limit would be read as another one. -/
def Settings.json (s : Settings) : Json :=
  .object
    [ ("sql_package", .string s.package.path),
      ("sql_driver", .ofText? (s.chosenDriver.map Driver.path)),
      ("emit_embed_nullable_left_join", .bool s.nullableEmbeds),
      ("emit_params_struct_pointers", .bool s.paramsByPointer),
      ("emit_result_struct_pointers", .bool s.resultsByPointer),
      ("query_parameter_limit",
        match s.parameterLimit with
        | none => .null
        | some limit => .number (.natural limit)) ]

/-- The JSON of an embed whose fields are given as JSON. -/
def EmbedSpec.json (e : EmbedSpec Json) : Json :=
  .object
    [ ("fields", .array e.fields),
      ("nullable", .bool e.nullable),
      ("primary_keys", .ofTexts e.primaryKeys) ]

namespace FieldSpec

mutual

def json : FieldSpec → Json
  | ⟨name, dbName, type, declaredName, isSlice, embed⟩ =>
    .object
      [ ("name", .ofText? name),
        ("db_name", .string dbName),
        ("type", .string type),
        ("original_name", .ofText? declaredName),
        ("is_sqlc_slice", .bool isSlice),
        ("embed",
          match embed with
          | none => .null
          | some ⟨fields, nullable, keys⟩ => EmbedSpec.json ⟨jsonAll fields, nullable, keys⟩) ]

def jsonAll : List FieldSpec → List Json
  | [] => []
  | field :: fields => json field :: jsonAll fields

end

theorem jsonAll_eq_map (fields : List FieldSpec) : jsonAll fields = fields.map json := by
  induction fields with
  | nil => rfl
  | cons field fields ih => rw [jsonAll, ih, List.map_cons]

def embedJson (f : FieldSpec) : Json :=
  match f.embed with
  | none => .null
  | some e => EmbedSpec.json ⟨e.fields.map json, e.nullable, e.primaryKeys⟩

theorem json_eq (f : FieldSpec) :
    f.json = .object
      [ ("name", .ofText? f.name),
        ("db_name", .string f.dbName),
        ("type", .string f.type),
        ("original_name", .ofText? f.declaredName),
        ("is_sqlc_slice", .bool f.isSlice),
        ("embed", f.embedJson) ] := by
  obtain ⟨name, dbName, type, declaredName, isSlice, embed⟩ := f
  cases embed with
  | none => rw [json, embedJson]
  | some e =>
      obtain ⟨fields, nullable, keys⟩ := e
      rw [json, jsonAll_eq_map, embedJson]

end FieldSpec

def QuerySpec.json (q : QuerySpec) : Json :=
  .object
    [ ("name", .string q.name),
      ("cmd", .string q.command),
      ("text", .string q.text),
      ("filename", .string q.filename),
      ("comments", .ofTexts q.comments),
      ("params", .array (q.params.map FieldSpec.json)),
      ("columns", .array (q.columns.map FieldSpec.json)),
      ("insert_into_table",
        match q.target with
        | none => .null
        | some table => table.json) ]

def Request.json (r : Request) : Json :=
  .object [("options", r.settings.json), ("queries", .array (r.queries.map QuerySpec.json))]

/-! ### What the codecs of a request carry -/

open Codec Shape

theorem Codec.carries_ofText? (text : Option String) :
    (optional Codec.text).Carries text (.ofText? text) := by
  cases text with
  | none => exact carries_none Codec.text
  | some text => exact carries_some (carries_text text) nofun

theorem Codec.carries_map {α : Type} {c : Codec α} {json : α → Json} {vs : List α}
    (h : ∀ v ∈ vs, c.Carries v (json v)) : (list c).Carries vs (.array (vs.map json)) := by
  apply carries_list
  rw [List.forall₂_map_right_iff, List.forall₂_same]
  exact h

theorem Codec.carries_ofTexts (texts : List String) :
    (list Codec.text).Carries texts (.ofTexts texts) :=
  carries_map fun text _ => carries_text text

theorem Package.carries (p : Package) : Package.codec.Carries p (.string p.path) :=
  carries_choice (by cases p <;> decide)

theorem Driver.carries (d : Driver) : Driver.codec.Carries d (.string d.path) :=
  carries_choice (by cases d <;> decide)

theorem TableName.carries (t : TableName) : TableName.shape.codec.Carries t t.json :=
  Shape.carries TableName.names_distinct <|
    .of (carries_ofText? t.catalog) <|
    .of (carries_ofText? t.schema) <|
    .of (carries_ofText? t.name) <|
    .nil t

theorem Settings.carries (s : Settings) : Settings.shape.codec.Carries s s.json := by
  have driver : (optional Driver.codec).Carries s.chosenDriver
      (.ofText? (s.chosenDriver.map Driver.path)) := by
    cases s.chosenDriver with
    | none => exact carries_none Driver.codec
    | some d => exact carries_some d.carries nofun
  have limit : (optional size).Carries s.parameterLimit
      (match s.parameterLimit with
        | none => .null
        | some limit => .number (.natural limit)) := by
    cases s.parameterLimit with
    | none => exact carries_none size
    | some limit => exact carries_some (carries_size limit) nofun
  exact Shape.carries Settings.names_distinct <|
    .of s.package.carries <|
    .of driver <|
    .of (carries_flag s.nullableEmbeds) <|
    .of (carries_flag s.paramsByPointer) <|
    .of (carries_flag s.resultsByPointer) <|
    .of limit <|
    .nil s

theorem EmbedSpec.carries {φ : Type} {field : Codec φ} {e : EmbedSpec φ} {fields : List Json}
    (h : (list field).Carries e.fields (.array fields)) :
    (EmbedSpec.shape field).codec.Carries e (json ⟨fields, e.nullable, e.primaryKeys⟩) :=
  Shape.carries (EmbedSpec.names_distinct field) <|
    .of h <|
    .of (carries_flag e.nullable) <|
    .of (carries_ofTexts e.primaryKeys) <|
    .nil e

namespace FieldSpec

theorem carries_shapeWith {embed : Codec (EmbedSpec FieldSpec)} {f : FieldSpec}
    (h : (optional embed).Carries f.embed f.embedJson) :
    (shapeWith embed).codec.Carries f f.json := by
  rw [json_eq]
  obtain ⟨name, dbName, type, declaredName, isSlice, given⟩ := f
  exact Shape.carries (names_distinct embed) <|
    .of (carries_ofText? name) <|
    .of (carries_text dbName) <|
    .of (carries_text type) <|
    .of (carries_ofText? declaredName) <|
    .of (carries_flag isSlice) <|
    .of h <|
    .nil _

theorem depth_json (f : FieldSpec) : f.json.depth = f.embedJson.depth + 1 := by
  simp [json_eq, Json.depth, Json.membersDepth, Json.depth_ofText?]

/-- An embed opens two brackets around its fields. -/
theorem depth_embedJson {f : FieldSpec} {e : EmbedSpec FieldSpec} (h : f.embed = some e) :
    Json.itemsDepth (e.fields.map json) + 2 ≤ f.embedJson.depth := by
  rw [embedJson, h]
  simp only [EmbedSpec.json, Json.depth, Json.membersDepth]
  omega

/-- Each step of the codec towards the inside of an embed opens a bracket at least, so that it
comes as deep as the JSON of the field goes. -/
theorem carries {depth : Nat} {f : FieldSpec} (shallow : f.json.depth ≤ depth + 1) :
    (codecTo depth).Carries f f.json := by
  induction depth generalizing f with
  | zero =>
      apply carries_shapeWith
      cases embed : f.embed with
      | none =>
          rw [embedJson, embed]
          exact carries_none _
      | some e =>
          -- An embed opens three brackets with its field, which leaves no room for it here.
          have deep := depth_embedJson embed
          rw [depth_json] at shallow
          omega
  | succ depth ih =>
      apply carries_shapeWith
      cases embed : f.embed with
      | none =>
          rw [embedJson, embed]
          exact carries_none _
      | some e =>
          have deep := depth_embedJson embed
          rw [depth_json] at shallow
          have inside : Json.itemsDepth (e.fields.map json) ≤ depth + 1 := by omega
          have fields : (list (codecTo depth)).Carries e.fields (.array (e.fields.map json)) :=
            carries_map fun g member =>
              ih (Json.itemsDepth_le_iff.mp inside g.json (List.mem_map_of_mem member))
          rw [embedJson, embed]
          exact carries_some (EmbedSpec.carries fields) nofun

end FieldSpec

namespace QuerySpec

theorem carries (q : QuerySpec) (shallow : q.json.depth ≤ JsonReader.deepest) :
    QuerySpec.shape.codec.Carries q q.json := by
  have fields {specs : List FieldSpec}
      (shallow : Json.itemsDepth (specs.map FieldSpec.json) ≤ JsonReader.deepest) :
      (list FieldSpec.codec).Carries specs (.array (specs.map FieldSpec.json)) :=
    carries_map fun f member => FieldSpec.carries
      ((Json.itemsDepth_le_iff.mp shallow f.json (List.mem_map_of_mem member)).trans
        (Nat.le_succ _))
  simp only [json, Json.depth, Json.membersDepth] at shallow
  have target : (optional TableName.shape.codec).Carries q.target
      (match q.target with
        | none => .null
        | some table => table.json) := by
    cases q.target with
    | none => exact carries_none _
    | some table => exact carries_some table.carries nofun
  exact Shape.carries names_distinct <|
    .of (carries_text q.name) <|
    .of (carries_text q.command) <|
    .of (carries_text q.text) <|
    .of (carries_text q.filename) <|
    .of (carries_ofTexts q.comments) <|
    .of (fields (by omega)) <|
    .of (fields (by omega)) <|
    .of target <|
    .nil q

end QuerySpec

theorem Request.carries (r : Request) (shallow : r.json.depth ≤ JsonReader.deepest) :
    Request.shape.codec.Carries r r.json := by
  simp only [json, Json.depth, Json.membersDepth] at shallow
  have inside : Json.itemsDepth (r.queries.map QuerySpec.json) ≤ JsonReader.deepest := by omega
  have queries : ∀ q ∈ r.queries, QuerySpec.shape.codec.Carries q q.json := fun q member =>
    q.carries (Json.itemsDepth_le_iff.mp inside q.json (List.mem_map_of_mem member))
  exact Shape.carries names_distinct <|
    .of r.settings.carries <|
    .of (carries_map queries) <|
    .nil r

/-! ### Requests as they are written -/

theorem FieldSpec.isWhole_json (f : FieldSpec) : f.json.IsWhole := by
  induction f using tree_induction with
  | node f ih =>
      have embed : f.embedJson.IsWhole := by
        unfold embedJson
        split
        · trivial
        · next e embed =>
            simpa [EmbedSpec.json, Json.IsWhole, Json.MembersAreWhole, Json.areWhole_iff,
              Json.isWhole_ofTexts] using ih e embed
      simp [json_eq, Json.IsWhole, Json.MembersAreWhole, Json.isWhole_ofText?, embed]

theorem Request.isWhole_json (r : Request) : r.json.IsWhole := by
  have settings : r.settings.json.IsWhole := by
    cases limit : r.settings.parameterLimit <;>
      simp [Settings.json, Json.IsWhole, Json.MembersAreWhole, Json.isWhole_ofText?, limit]
  have queries : ∀ q ∈ r.queries, q.json.IsWhole := by
    intro q _
    cases target : q.target <;>
      simp [QuerySpec.json, TableName.json, Json.IsWhole, Json.MembersAreWhole, Json.areWhole_iff,
        Json.isWhole_ofText?, Json.isWhole_ofTexts, FieldSpec.isWhole_json, target]
  simpa [json, Json.IsWhole, Json.MembersAreWhole, Json.areWhole_iff, settings] using queries

namespace Request

variable {r : Request}

theorem ofText_document {d : Document} (stands : d.value.value? = some r.json)
    (shallow : r.json.depth ≤ JsonReader.deepest) : ofText d.text = .ok r :=
  ofText_eq_ok_iff.mpr
    ⟨r.json.reading, JsonReader.document_of_value? stands shallow, (r.carries shallow).read⟩

theorem exists_document_toText (shallow : r.json.depth ≤ JsonReader.deepest) :
    ∃ d : Document, d.text = r.toText ∧ d.value.value? = some r.json := by
  rw [toText, Codec.toText, (r.carries shallow).write]
  exact r.json.exists_document r.isWhole_json

theorem ofText_toText (shallow : r.json.depth ≤ JsonReader.deepest) :
    ofText r.toText = .ok r := by
  obtain ⟨d, written, stands⟩ := exists_document_toText shallow
  rw [← written]
  exact ofText_document stands shallow

/-- Every request that opens no more than 127 brackets at once is handed over whole: it is written
as JSON that stands for it, and every text that stands for that JSON is read as the request. -/
theorem handed_over (shallow : r.json.depth ≤ JsonReader.deepest) :
    (∃ d : Document, d.text = r.toText ∧ d.value.value? = some r.json) ∧
      ∀ d : Document, d.value.value? = some r.json → ofText d.text = .ok r :=
  ⟨exists_document_toText shallow, fun _ stands => ofText_document stands shallow⟩

/-- A request with an embed in an embed, quotes and a line break in its text, and no limit. -/
def nested : Request where
  settings := { package := .pgxV5, chosenDriver := some .pgxV5, parameterLimit := none }
  queries :=
    [ { name := "FindBook"
        command := ":one"
        text := "SELECT \"b\".*\n\tFROM \"book\" b"
        columns :=
          [ { type := "Book"
              embed := some
                { fields :=
                    [ { dbName := "author"
                        type := "Author"
                        embed := some
                          { fields := [{ dbName := "id", type := "int64" }]
                            nullable := true
                            primaryKeys := ["ID"] } } ] } } ]
        target := some (.ofName "book") } ]

theorem handed_over_nested :
    nested.json.depth ≤ JsonReader.deepest ∧ ofText nested.toText = .ok nested := by
  have shallow : nested.json.depth ≤ JsonReader.deepest := by decide
  obtain ⟨⟨d, written, stands⟩, read⟩ := handed_over shallow
  exact ⟨shallow, written ▸ read d stands⟩

end Request

end QueryBinding
