import QueryBinding.Proofs.Json.Grammar
import QueryBinding.Proofs.Json.Layout
import QueryBinding.Proofs.Request.Codecs

/-! # Unknown members are passed over

Requests come with members that the library does not know. Their values may be anything that is
spelled by the grammar, also what could not be taken as a value: half a surrogate pair, a number too
large, brackets that go too deep. Main statement: `unknown_members_ignored`, that one more such
member in any structure of an accepted text leaves the request as it is. -/

namespace QueryBinding

/-- The kinds of structures in a request. -/
inductive Struct where
  | request
  | settings
  | query
  | field
  | embed
  | table
deriving DecidableEq, Repr

/-- What structures stand in the value of a member. -/
inductive Part where
  | one (s : Struct)
  | many (s : Struct)
  | nothing

/-- The known members of a structure, and what stands in each. -/
def Struct.members : Struct → List (String × Part)
  | request => [("options", .one settings), ("queries", .many query)]
  | settings =>
    [ ("sql_package", .nothing),
      ("sql_driver", .nothing),
      ("emit_embed_nullable_left_join", .nothing),
      ("emit_params_struct_pointers", .nothing),
      ("emit_result_struct_pointers", .nothing),
      ("query_parameter_limit", .nothing) ]
  | query =>
    [ ("name", .nothing),
      ("cmd", .nothing),
      ("text", .nothing),
      ("filename", .nothing),
      ("comments", .nothing),
      ("params", .many field),
      ("columns", .many field),
      ("insert_into_table", .one table) ]
  | field =>
    [ ("name", .nothing),
      ("db_name", .nothing),
      ("type", .nothing),
      ("original_name", .nothing),
      ("is_sqlc_slice", .nothing),
      ("embed", .one embed) ]
  | embed => [("fields", .many field), ("nullable", .nothing), ("primary_keys", .nothing)]
  | table => [("catalog", .nothing), ("schema", .nothing), ("name", .nothing)]

/-- One more member that its structure does not know has come into a structure somewhere inside.
Blanks may change along with it. -/
inductive Extended : Part → Spelling → Spelling → Prop where
  /-- The member stands among those of this structure, at any place. -/
  | here {s : Struct} {old new : List (Placed (SpelledMember Spelling))} {closing closing' : Blanks}
      {m : SpelledMember Spelling} {name : String} (before after : List (SpelledMember Spelling))
      (given : old.map (·.body) = before ++ after)
      (inserted : new.map (·.body) = before ++ m :: after)
      (spelled : m.key.text? = some name) (unknown : name ∉ s.members.map (·.1)) :
      Extended (.one s) (.object old closing) (.object new closing')
  | member {s : Struct} {old new : List (Placed (SpelledMember Spelling))}
      {closing closing' : Blanks} {m : SpelledMember Spelling} {value : Spelling} {name : String}
      {part : Part} (before after : List (SpelledMember Spelling))
      (given : old.map (·.body) = before ++ m :: after)
      (changed : new.map (·.body) = before ++ { m with value } :: after)
      (spelled : m.key.text? = some name) (known : (name, part) ∈ s.members)
      (inside : Extended part m.value value) :
      Extended (.one s) (.object old closing) (.object new closing')
  /-- A structure may also be an array of its members' values in order. -/
  | item {s : Struct} {old new : List (Placed Spelling)} {closing closing' : Blanks}
      {value value' : Spelling} {name : String} {part : Part} (before after : List Spelling)
      (given : old.map (·.body) = before ++ value :: after)
      (changed : new.map (·.body) = before ++ value' :: after)
      (position : s.members[before.length]? = some (name, part))
      (inside : Extended part value value') :
      Extended (.one s) (.array old closing) (.array new closing')
  | element {s : Struct} {old new : List (Placed Spelling)} {closing closing' : Blanks}
      {value value' : Spelling} (before after : List Spelling)
      (given : old.map (·.body) = before ++ value :: after)
      (changed : new.map (·.body) = before ++ value' :: after)
      (inside : Extended (.one s) value value') :
      Extended (.many s) (.array old closing) (.array new closing')

/-! ### Readings of what is spelled -/

def SpelledMember.reading (depth : Nat) (m : SpelledMember Spelling) : Key × Reading :=
  (m.key.key, m.value.reading depth)

namespace Spelling

theorem memberReadings_eq_map (depth : Nat) (members : List (Placed (SpelledMember Spelling))) :
    memberReadings depth members = (members.map (·.body)).map (SpelledMember.reading depth) := by
  induction members with
  | nil => rfl
  | cons m members ih =>
      rw [List.map_cons, List.map_cons, ← ih]
      rfl

theorem itemReadings_eq_map (depth : Nat) (items : List (Placed Spelling)) :
    itemReadings depth items = (items.map (·.body)).map (reading depth) := by
  induction items with
  | nil => rfl
  | cons item items ih =>
      rw [List.map_cons, List.map_cons, ← ih]
      rfl

/-- Too deep inside brackets, all objects are read alike. -/
theorem reading_object (depth : Nat) (members : List (Placed (SpelledMember Spelling)))
    (closing : Blanks) :
    (object members closing).reading depth =
      if depth < JsonReader.deepest then .object (memberReadings (depth + 1) members) none
      else .object [(.unread .malformed none, .null)] none := by
  rw [reading, JsonReader.objectAt, membersFault?_readings]
  rfl

theorem reading_array (depth : Nat) (items : List (Placed Spelling)) (closing : Blanks) :
    (array items closing).reading depth =
      if depth < JsonReader.deepest then .array (itemReadings (depth + 1) items) none
      else .array [.bad none .malformed none] none := by
  rw [reading, JsonReader.arrayAt, itemsFault?_readings]
  rfl

end Spelling

/-! ### Codecs that ignore unknown members -/

namespace Codec

variable {α : Type}

/-- Unknown members make no difference to what is read. -/
def Ignores (c : Codec α) (part : Part) : Prop :=
  ∀ ⦃s s' : Spelling⦄ ⦃depth : Nat⦄, Extended part s s' →
    c.read (s'.reading depth) = c.read (s.reading depth)

theorem ignores_nothing (c : Codec α) : c.Ignores .nothing := nofun

theorem ignores_optional {c : Codec α} {s : Struct} (h : c.Ignores (.one s)) :
    (optional c).Ignores (.one s) := by
  have object (members : List (Placed (SpelledMember Spelling))) (closing : Blanks) (depth : Nat) :
      (optional c).read ((Spelling.object members closing).reading depth) =
        (c.read ((Spelling.object members closing).reading depth)).map some := by
    rw [Spelling.reading_object]
    split <;> rfl
  have array (items : List (Placed Spelling)) (closing : Blanks) (depth : Nat) :
      (optional c).read ((Spelling.array items closing).reading depth) =
        (c.read ((Spelling.array items closing).reading depth)).map some := by
    rw [Spelling.reading_array]
    split <;> rfl
  intro t t' depth extended
  have same : c.read (t'.reading depth) = c.read (t.reading depth) := h extended
  cases extended with
  | here => rw [object, object, same]
  | member => rw [object, object, same]
  | item => rw [array, array, same]

theorem ignores_list {c : Codec α} {s : Struct} (h : c.Ignores (.one s)) :
    (list c).Ignores (.many s) := by
  intro t t' depth extended
  cases extended with
  | @element _ old new _ _ value value' before after given changed inside =>
      rw [Spelling.reading_array, Spelling.reading_array]
      split
      · have same : (Spelling.itemReadings (depth + 1) new).mapM c.read =
            (Spelling.itemReadings (depth + 1) old).mapM c.read := by
          simp only [Spelling.itemReadings_eq_map, given, changed, List.map_append, List.map_cons,
            List.mapM_append, List.mapM_cons, h inside]
        simp only [list, same]
      · rfl

end Codec

namespace Member

variable {σ α : Type}

def Ignores (m : Member σ) (part : Part) : Prop :=
  ∀ ⦃s s' : Spelling⦄ ⦃depth : Nat⦄, Extended part s s' →
    m.read (s'.reading depth) = m.read (s.reading depth)

theorem ignores_of {name : String} {required : Bool} {c : Codec α} {get : σ → α}
    {put : α → σ → σ} {part : Part} (h : c.Ignores part) :
    (Member.of name required c get put).Ignores part := fun _ _ _ extended =>
  congrArg (Except.map put) (h extended)

/-- A member of a shape and the one that it is known as. -/
def Fits (m : Member σ) (known : String × Part) : Prop := m.name = known.1 ∧ m.Ignores known.2

theorem fits_of {name : String} {required : Bool} {c : Codec α} {get : σ → α} {put : α → σ → σ}
    {part : Part} (h : c.Ignores part) :
    (Member.of name required c get put).Fits (name, part) :=
  ⟨rfl, ignores_of h⟩

end Member

namespace Shape

variable {σ : Type} {shape : Shape σ} {s : Struct}

theorem names_of_fits {ms : List (Member σ)} {known : List (String × Part)}
    (fits : List.Forall₂ Member.Fits ms known) : ms.map (·.name) = known.map (·.1) := by
  induction fits with
  | nil => rfl
  | cons first _ ih => rw [List.map_cons, List.map_cons, first.1, ih]

theorem member?_eq_none {name : String} (unknown : name ∉ shape.members.map (·.name)) :
    shape.member? name = none := by
  refine List.find?_eq_none.mpr fun m member => ?_
  simp only [beq_iff_eq]
  exact fun same => unknown (same ▸ List.mem_map_of_mem member)

theorem exists_getElem? {ms : List (Member σ)} {known : List (String × Part)} {i : Nat}
    {one : String × Part} (fits : List.Forall₂ Member.Fits ms known)
    (position : known[i]? = some one) : ∃ m, ms[i]? = some m ∧ m.Fits one := by
  induction fits generalizing i with
  | nil => cases position
  | @cons m other ms known first _ ih =>
      cases i with
      | zero =>
          cases position
          exact ⟨m, rfl, first⟩
      | succ i => exact ih position

theorem exists_member? {name : String} {part : Part}
    (distinct : (shape.members.map (·.name)).Nodup)
    (fits : List.Forall₂ Member.Fits shape.members s.members) (known : (name, part) ∈ s.members) :
    ∃ m, shape.member? name = some m ∧ m.Ignores part := by
  obtain ⟨i, position⟩ := List.mem_iff_getElem?.mp known
  obtain ⟨m, found, rfl, ignores⟩ := exists_getElem? fits position
  obtain ⟨before, after, split⟩ := List.append_of_mem (List.mem_of_getElem? found)
  exact ⟨m, (member?_of_split distinct split).1, ignores⟩

theorem takeMembers_append_congr {tail tail' : List (Key × Reading)}
    (same : ∀ seen v, shape.takeMembers tail' seen v = shape.takeMembers tail seen v)
    (before : List (Key × Reading)) (seen : List String) (v : σ) :
    shape.takeMembers (before ++ tail') seen v = shape.takeMembers (before ++ tail) seen v := by
  induction before generalizing seen v with
  | nil => exact same seen v
  | cons m before ih =>
      obtain ⟨key, r⟩ := m
      cases key with
      | name name => simp only [List.cons_append, takeMembers, ih]
      | unread f skipped => simp only [List.cons_append, takeMembers]

theorem takeItems_append_congr {ms : List (Member σ)} {m : Member σ} {before after : List Reading}
    {r r' : Reading} (position : ms[before.length]? = some m) (same : m.read r' = m.read r)
    (index : Nat) (v : σ) :
    shape.takeItems ms index (before ++ r' :: after) none v =
      shape.takeItems ms index (before ++ r :: after) none v := by
  induction before generalizing ms index v with
  | nil =>
      cases ms with
      | nil => cases position
      | cons m' ms =>
          cases position
          simp only [List.nil_append, takeItems, same]
  | cons b before ih =>
      cases ms with
      | nil => cases position
      | cons m' ms => simp only [List.cons_append, takeItems, ih position]

theorem read_object_congr {old new : List (Placed (SpelledMember Spelling))}
    {closing closing' : Blanks} {depth : Nat}
    (same : shape.takeMembers (Spelling.memberReadings (depth + 1) new) [] shape.absent =
      shape.takeMembers (Spelling.memberReadings (depth + 1) old) [] shape.absent) :
    shape.codec.read ((Spelling.object new closing').reading depth) =
      shape.codec.read ((Spelling.object old closing).reading depth) := by
  rw [Spelling.reading_object, Spelling.reading_object]
  split
  · simp only [codec, ofObject, same]
  · rfl

/-- A structure ignores what it does not know, and its members what they do not know. -/
theorem ignores (distinct : (shape.members.map (·.name)).Nodup)
    (fits : List.Forall₂ Member.Fits shape.members s.members) :
    shape.codec.Ignores (.one s) := by
  intro t t' depth extended
  cases extended with
  | @here _ old new _ _ m name before after given inserted spelled unknown =>
      rw [← names_of_fits fits] at unknown
      apply read_object_congr
      simp only [Spelling.memberReadings_eq_map, given, inserted, List.map_append, List.map_cons]
      apply takeMembers_append_congr
      intro seen v
      -- No codec looks at the new value; it is passed over, as all that is spelled can be.
      rw [SpelledMember.reading, (m.key.reading_of_text? spelled).2, takeMembers]
      simp only [member?_eq_none unknown, m.value.skipFault?_reading]
  | @member _ old new _ _ m value name part before after given changed spelled known inside =>
      obtain ⟨m', found, ignores⟩ := exists_member? distinct fits known
      apply read_object_congr
      simp only [Spelling.memberReadings_eq_map, given, changed, List.map_append, List.map_cons]
      apply takeMembers_append_congr
      intro seen v
      simp only [SpelledMember.reading, (m.key.reading_of_text? spelled).2, takeMembers, found,
        ignores inside]
  | @item _ old new _ _ value value' name part before after given changed position inside =>
      obtain ⟨m, position, -, ignores⟩ := exists_getElem? fits position
      rw [Spelling.reading_array, Spelling.reading_array]
      split
      · simp only [Spelling.itemReadings_eq_map, given, changed, List.map_append, List.map_cons]
        apply takeItems_append_congr (m := m) (by rwa [List.length_map]) (ignores inside)
      · rfl

end Shape

/-! ### The codecs of a request -/

open Codec Member

theorem TableName.ignores : TableName.shape.codec.Ignores (.one .table) :=
  Shape.ignores TableName.names_distinct <|
    .cons (fits_of (ignores_nothing _)) <|
    .cons (fits_of (ignores_nothing _)) <|
    .cons (fits_of (ignores_nothing _)) <|
    .nil

theorem Settings.ignores : Settings.shape.codec.Ignores (.one .settings) :=
  Shape.ignores Settings.names_distinct <|
    .cons (fits_of (ignores_nothing _)) <|
    .cons (fits_of (ignores_nothing _)) <|
    .cons (fits_of (ignores_nothing _)) <|
    .cons (fits_of (ignores_nothing _)) <|
    .cons (fits_of (ignores_nothing _)) <|
    .cons (fits_of (ignores_nothing _)) <|
    .nil

theorem EmbedSpec.ignores {φ : Type} {field : Codec φ} (h : field.Ignores (.one .field)) :
    (EmbedSpec.shape field).codec.Ignores (.one .embed) :=
  Shape.ignores (EmbedSpec.names_distinct field) <|
    .cons (fits_of (ignores_list h)) <|
    .cons (fits_of (ignores_nothing _)) <|
    .cons (fits_of (ignores_nothing _)) <|
    .nil

theorem FieldSpec.ignores_shapeWith {embed : Codec (EmbedSpec FieldSpec)}
    (h : embed.Ignores (.one .embed)) : (shapeWith embed).codec.Ignores (.one .field) :=
  Shape.ignores (FieldSpec.names_distinct embed) <|
    .cons (fits_of (ignores_nothing _)) <|
    .cons (fits_of (ignores_nothing _)) <|
    .cons (fits_of (ignores_nothing _)) <|
    .cons (fits_of (ignores_nothing _)) <|
    .cons (fits_of (ignores_nothing _)) <|
    .cons (fits_of (ignores_optional h)) <|
    .nil

theorem FieldSpec.ignores (depth : Nat) : (codecTo depth).Ignores (.one .field) := by
  induction depth with
  | zero => exact ignores_shapeWith fun _ _ _ _ => rfl
  | succ depth ih => exact ignores_shapeWith (EmbedSpec.ignores ih)

theorem QuerySpec.ignores : QuerySpec.shape.codec.Ignores (.one .query) := by
  have fields : (list FieldSpec.codec).Ignores (.many .field) :=
    ignores_list (FieldSpec.ignores JsonReader.deepest)
  exact Shape.ignores QuerySpec.names_distinct <|
    .cons (fits_of (ignores_nothing _)) <|
    .cons (fits_of (ignores_nothing _)) <|
    .cons (fits_of (ignores_nothing _)) <|
    .cons (fits_of (ignores_nothing _)) <|
    .cons (fits_of (ignores_nothing _)) <|
    .cons (fits_of fields) <|
    .cons (fits_of fields) <|
    .cons (fits_of (ignores_optional TableName.ignores)) <|
    .nil

theorem Request.ignores : Request.shape.codec.Ignores (.one .request) :=
  Shape.ignores Request.names_distinct <|
    .cons (fits_of Settings.ignores) <|
    .cons (fits_of (ignores_list QuerySpec.ignores)) <|
    .nil

/-! ### A structure deep inside -/

/-- A string of the characters of a text that need no escape. -/
def SpelledText.plain (text : String) : SpelledText where
  units := text.toList.filterMap fun c =>
    if unescaped : c ≠ '"' ∧ c ≠ '\\' ∧ 0x20 ≤ c.toNat then some (.plain c unescaped) else none

namespace Spelling

def tight {β : Type} (body : β) : Placed β := ⟨.none, .none, body⟩

def plain (text : String) : Spelling := .string (.plain text)

def tightMember (name : String) (value : Spelling) : Placed (SpelledMember Spelling) :=
  tight ⟨.plain name, .none, .none, value⟩

/-- A string of half a surrogate pair, which has no text. -/
def halfPair : Spelling := .string ⟨[.hex 'd' '8' '0' '0' 0xd800 rfl]⟩

/-- A request for one query, whose only parameter has a type and further members. -/
def deletion (more : List (Placed (SpelledMember Spelling))) : Spelling :=
  let parameter : Spelling := .object (tightMember "type" (plain "int64") :: more) .none
  let query : Spelling := .object
    [ tightMember "name" (plain "DeleteBook"),
      tightMember "cmd" (plain ":exec"),
      tightMember "text" (plain "DELETE FROM book"),
      tightMember "params" (.array [tight parameter] .none) ] .none
  .object [tightMember "queries" (.array [tight query] .none)] .none

theorem extended_deletion :
    Extended (.one .request) (deletion []) (deletion [tightMember "is_array" halfPair]) :=
  .member [] [] rfl rfl rfl (.tail _ (.head _)) <|
    .element [] [] rfl rfl <|
    .member [_, _, _] [] rfl rfl rfl (.tail _ (.tail _ (.tail _ (.tail _ (.tail _ (.head _)))))) <|
    .element [] [] rfl rfl <|
    .here [_] [] rfl rfl rfl (by decide)

end Spelling

namespace Request

/-- The request that such a text is read as. -/
def deletion : Request where
  queries :=
    [ { name := "DeleteBook"
        command := ":exec"
        text := "DELETE FROM book"
        params := [{ type := "int64" }] } ]

/-- An accepted text is spelled by the grammar, and however it is taken to be spelled, one more
unknown member in it leaves the request as it is. -/
theorem unknown_members_ignored {text : String} {r : Request} (accepted : ofText text = .ok r) :
    (∃ d : Document, d.text = text) ∧
      ∀ d : Document, d.text = text → ∀ value, Extended (.one .request) d.value value →
        ofText (Document.text { d with value }) = .ok r := by
  obtain ⟨reading, document, read⟩ := ofText_eq_ok_iff.mp accepted
  obtain ⟨d, spelled, -⟩ := JsonReader.exists_of_document document (strict read)
  refine ⟨⟨d, spelled⟩, fun d spelled value extended => ?_⟩
  rw [← spelled, JsonReader.document_text] at document
  obtain ⟨rfl, -⟩ := Prod.mk.inj document
  rw [← ignores extended] at read
  exact ofText_eq_ok_iff.mpr ⟨_, JsonReader.document_text { d with value }, read⟩

/-- An unknown member of a parameter, with a value that could not be taken as one. -/
theorem unknown_members_ignored_parameter :
    ofText (Document.text ⟨.none, .deletion [], .none⟩) = .ok deletion ∧
      ofText (Document.text ⟨.none, .deletion [Spelling.tightMember "is_array" .halfPair], .none⟩) =
        .ok deletion := by
  have read : Request.shape.codec.read ((Spelling.deletion []).reading 0) = .ok deletion := rfl
  have accepted : ofText (Document.text ⟨.none, .deletion [], .none⟩) = .ok deletion :=
    ofText_eq_ok_iff.mpr ⟨_, JsonReader.document_text ⟨.none, .deletion [], .none⟩, read⟩
  exact ⟨accepted, (unknown_members_ignored accepted).2 _ rfl _ Spelling.extended_deletion⟩

end Request

end QueryBinding
