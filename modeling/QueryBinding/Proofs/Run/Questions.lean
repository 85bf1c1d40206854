import QueryBinding.Proofs.Row.StoredKey
import QueryBinding.Proofs.Run.Rendering
import QueryBinding.Proofs.Text.FirstWord

/-! # Questions about a binding

Everything that can be asked of a binding, as data. An answer may take steps that can fail: the type
of the empty binding does not exist, a key kept by position may point outside its embed, and a name
may be cut behind its end. Here each question is answered by those steps, without looking ahead.
Main statement: `rendering_total`, that the only questions without an answer are those for the type
of the empty binding, and that a rendering never asks them. -/

namespace QueryBinding

/-- What can be asked of a binding, by the type of the answer. -/
inductive Question : Type → Type where
  | varName : Question String
  | isEmpty : Question Bool
  | isRecord : Question Bool
  | asStruct : Question Bool
  | isPointer : Question Bool
  | record : Question (Option Record)
  | fields : Question (List Field)
  | typeText : Question String
  | passedTypeText : Question String
  | arguments : Question (List Argument)
  | signature : Question String
  | sliceSignature : Question String
  | returned : Question String
  | reading (field : Field) : Question String
  | uniqueFields : Question (List Field)
  | slotType (field : Field) (separate : Bool) : Question GoType
  | structFields (separate : Bool) : Question (List Argument)
  | params : Question String
  | scan (separate : Bool) : Question String
  | hasSlices : Question Bool
  | hasNullableEmbed (separate : Bool) : Question Bool
  | scratchLines : Question (List String)
  | presenceLines (rule : PresenceRule) : Question (List String)
  | columnNames : Question (List String)
  | listedNamesText : Question String

def Question.isAboutType : {α : Type} → Question α → Bool
  | _, .typeText => true
  | _, .passedTypeText => true
  | _, _ => false

/-- A name with its first word in lower case, cut where the word ends. -/
def Text.cutLowerFirst (name : String) : Except Lapse String :=
  let cs := name.toList
  let word := firstWordLength cs
  if word ≤ cs.length then .ok (.ofList ((cs.take word).flatMap lowered ++ cs.drop word))
  else .error (.outside word cs.length)

/-- The code for one embed, with its key read from the stored positions. -/
def Field.askMaterialization (owner : String) (f : Field) (e : Embed) :
    Except Lapse Materialization := do
  let keys ← e.stored.keys
  .ok { f.materialization owner e with keys := keys.map fun c => ⟨owner, f.name, c.name⟩ }

namespace Binding

/-- The answers by definition. -/
def answer (b : Binding) : {α : Type} → Question α → Except Misuse α
  | _, .varName => .ok b.varName
  | _, .isEmpty => .ok b.isEmpty
  | _, .isRecord => .ok b.isRecord
  | _, .asStruct => .ok b.asStruct
  | _, .isPointer => .ok b.isPointer
  | _, .record => .ok b.record?
  | _, .fields => .ok b.fields
  | _, .typeText => b.typeText
  | _, .passedTypeText => b.passedTypeText
  | _, .arguments => .ok b.arguments
  | _, .signature => .ok b.signature
  | _, .sliceSignature => .ok b.sliceSignature
  | _, .returned => .ok b.returned
  | _, .reading field => .ok (b.reading field)
  | _, .uniqueFields => .ok b.uniqueFields
  | _, .slotType field separate => .ok (field.slotType separate)
  | _, .structFields separate => .ok (b.structFields separate)
  | _, .params => .ok b.params
  | _, .scan separate => .ok (b.scan separate)
  | _, .hasSlices => .ok b.hasSlices
  | _, .hasNullableEmbed separate => .ok (b.hasNullableEmbed separate)
  | _, .scratchLines => .ok b.scratchLines
  | _, .presenceLines rule => .ok (b.presenceLines rule)
  | _, .columnNames => .ok b.columnNames
  | _, .listedNamesText => .ok b.listedNamesText

def askPassedType (b : Binding) : Except Lapse String := b.passedTypeText.mapError .misuse

/-- The arguments. All that is not passed field by field is one argument of the value's type. -/
def askArguments (b : Binding) : Except Lapse (List Argument) :=
  match b.content, b.asStruct with
  | .empty, _ => .ok []
  | .record _ record, false => record.fields.mapM fun f => do
    let name ← Text.cutLowerFirst f.name
    .ok ⟨Go.escape name, f.type.text⟩
  | _, _ => do
    let type ← b.askPassedType
    .ok [⟨Go.escape b.varName, type⟩]

def askSignature (b : Binding) : Except Lapse String := do
  let arguments ← b.askArguments
  .ok (",".intercalate (arguments.map fun a => a.name ++ " " ++ a.type))

def askSliceSignature (b : Binding) : Except Lapse String :=
  if b.isEmpty then .ok ""
  else do
    let type ← b.askPassedType
    .ok (b.varName ++ " []" ++ type)

def askReading (b : Binding) (field : Field) : Except Lapse String :=
  match b.content, b.asStruct with
  | .record _ _, false => Text.cutLowerFirst field.name
  | _, _ => .ok (b.reading field)

def askParams (b : Binding) : Except Lapse String := do
  let bound ← b.fields.mapM fun f => do
    let expression ← b.askReading f
    .ok (BoundParam.text ⟨Go.escape expression, b.arrays.adapterFor f.type f.spread⟩)
  .ok (Go.callLayout bound)

def askPresenceLines (b : Binding) (rule : PresenceRule) : Except Lapse (List String) := do
  let blocks ← b.nullableEmbeds.mapM fun (f, e) => f.askMaterialization b.varName e
  .ok (blocks.flatMap (·.lines rule))

/-- The answers by steps that can fail. Where there are none, the answer is that by definition. -/
def ask (b : Binding) : {α : Type} → Question α → Except Lapse α
  | _, .arguments => b.askArguments
  | _, .signature => b.askSignature
  | _, .sliceSignature => b.askSliceSignature
  | _, .reading field => b.askReading field
  | _, .params => b.askParams
  | _, .presenceLines rule => b.askPresenceLines rule
  | _, question => (b.answer question).mapError .misuse

end Binding

theorem Text.cutLowerFirst_eq (name : String) : cutLowerFirst name = .ok (lowerFirst name) :=
  if_pos (firstWordLength_le name.toList)

namespace Binding

theorem askPassedType_scalar (field : Field) (asStruct byPointer : Bool) (arrays : ArraySupport) :
    askPassedType ⟨.scalar field, asStruct, byPointer, arrays⟩ = .ok field.type.text := by
  cases byPointer <;> rfl

theorem askPassedType_record (owner : String) (r : Record) (asStruct byPointer : Bool)
    (arrays : ArraySupport) :
    askPassedType ⟨.record owner r, asStruct, byPointer, arrays⟩ =
      .ok (if byPointer then "*" ++ r.name else r.name) := by
  cases byPointer <;> rfl

theorem askArguments_eq (b : Binding) : b.askArguments = .ok b.arguments := by
  obtain ⟨content, asStruct, byPointer, arrays⟩ := b
  cases content with
  | empty => rfl
  | scalar field =>
      simp [askArguments, askPassedType_scalar]
  | record owner r =>
      cases asStruct with
      | false =>
          simp only [askArguments, Text.cutLowerFirst_eq]
          exact List.mapM_pure
      | true =>
          simp [askArguments, askPassedType_record]

theorem askSignature_eq (b : Binding) : b.askSignature = .ok b.signature := by
  simp [askSignature, askArguments_eq, signature]

theorem askSliceSignature_eq (b : Binding) : b.askSliceSignature = .ok b.sliceSignature := by
  obtain ⟨content, asStruct, byPointer, arrays⟩ := b
  cases content with
  | empty => rfl
  | scalar field =>
      cases byPointer <;> rfl
  | record owner r =>
      cases byPointer <;> rfl

theorem askReading_eq (b : Binding) (field : Field) :
    b.askReading field = .ok (b.reading field) := by
  obtain ⟨content, asStruct, byPointer, arrays⟩ := b
  cases content with
  | empty => rfl
  | scalar _ => rfl
  | record owner r =>
      cases asStruct with
      | false => exact Text.cutLowerFirst_eq field.name
      | true => rfl

theorem askParams_eq (b : Binding) : b.askParams = .ok b.params := by
  have bound : (b.fields.mapM fun f => do
      let expression ← b.askReading f
      .ok (BoundParam.text ⟨Go.escape expression, b.arrays.adapterFor f.type f.spread⟩)) =
      Except.ok (b.boundParams.map BoundParam.text) := by
    simp only [askReading_eq]
    rw [boundParams, List.map_map]
    exact List.mapM_pure
  simp [askParams, bound, params]

end Binding

theorem Field.askMaterialization_eq (owner : String) (f : Field) (e : Embed) :
    f.askMaterialization owner e = .ok (f.materialization owner e) := by
  obtain ⟨columns, read, names⟩ := StoredEmbed.exists_keys_stored e
  -- A repeated name may be read at an earlier column than the key's own; tests only use the name.
  have keys : (columns.map fun c => Scratch.mk owner f.name c.name) =
      e.keys.map fun c => ⟨owner, f.name, c.name⟩ := by
    have scratches := congrArg (List.map (Scratch.mk owner f.name)) names
    rwa [List.map_map, List.map_map] at scratches
  simp [askMaterialization, read, keys, materialization]

namespace Binding

theorem askPresenceLines_eq (b : Binding) (rule : PresenceRule) :
    b.askPresenceLines rule = .ok (b.presenceLines rule) := by
  have read : ∃ blocks,
      (b.nullableEmbeds.mapM fun (f, e) => f.askMaterialization b.varName e) = .ok blocks ∧
      blocks.map id = b.nullableEmbeds.map fun (f, e) => f.materialization b.varName e :=
    exists_mapM_eq_ok fun (f, e) _ => ⟨_, f.askMaterialization_eq b.varName e, rfl⟩
  obtain ⟨blocks, read, same⟩ := read
  rw [List.map_id] at same
  simp [askPresenceLines, read, same, presenceLines, materializations]

/-- Step by step, every question has the answer it has by definition. -/
theorem ask_eq_answer (b : Binding) {α : Type} (question : Question α) :
    b.ask question = (b.answer question).mapError .misuse := by
  cases question with
  | arguments => exact b.askArguments_eq
  | signature => exact b.askSignature_eq
  | sliceSignature => exact b.askSliceSignature_eq
  | reading field => exact b.askReading_eq field
  | params => exact b.askParams_eq
  | presenceLines rule => exact b.askPresenceLines_eq rule
  | _ => rfl

theorem typeText_eq_error_iff {b : Binding} {m : Misuse} :
    b.typeText = .error m ↔ b.isEmpty = true := by
  obtain ⟨content, asStruct, byPointer, arrays⟩ := b
  cases m
  cases content with
  | empty => exact ⟨fun _ => rfl, fun _ => rfl⟩
  | scalar field => exact ⟨nofun, nofun⟩
  | record owner r => exact ⟨nofun, nofun⟩

theorem passedTypeText_eq_error_iff {b : Binding} {m : Misuse} :
    b.passedTypeText = .error m ↔ b.isEmpty = true := by
  rw [← typeText_eq_error_iff (m := m), passedTypeText]
  cases b.typeText with
  | error m' => rfl
  | ok text => exact ⟨nofun, nofun⟩

theorem answer_eq_error_iff {b : Binding} {α : Type} {question : Question α} {m : Misuse} :
    b.answer question = .error m ↔ b.isEmpty = true ∧ question.isAboutType = true := by
  cases question with
  | typeText => exact typeText_eq_error_iff.trans (and_iff_left rfl).symm
  | passedTypeText => exact passedTypeText_eq_error_iff.trans (and_iff_left rfl).symm
  | _ => exact ⟨nofun, nofun⟩

theorem ask_eq_error_iff {b : Binding} {α : Type} {question : Question α} {l : Lapse} :
    b.ask question = .error l ↔
      b.isEmpty = true ∧ question.isAboutType = true ∧ l = .misuse .noType := by
  rw [ask_eq_answer]
  cases answered : b.answer question with
  | error m =>
      obtain ⟨empty, type⟩ := answer_eq_error_iff.mp answered
      exact ⟨fun h => ⟨empty, type, (Except.error.inj h).symm⟩, fun h => h.2.2 ▸ rfl⟩
  | ok a =>
      refine ⟨nofun, fun ⟨empty, type, _⟩ => ?_⟩
      cases answered.symm.trans (answer_eq_error_iff (m := .noType).mpr ⟨empty, type⟩)

end Binding

/-- The answer to a question that need not be asked. -/
def Binding.askWhen (b : Binding) {α : Type} (wanted : Bool) (question : Question α) :
    Except Lapse (Option α) :=
  if wanted then (b.ask question).map some else .ok none

theorem Binding.askWhen_eq_ok (b : Binding) {α : Type} (question : Question α) {a : α}
    (answered : b.answer question = .ok a) (wanted : Bool) :
    b.askWhen wanted question = .ok (if wanted then some a else none) := by
  rw [askWhen, ask_eq_answer, answered]
  cases wanted <;> rfl

theorem getD_ite_some {α : Type} (c : Prop) [Decidable c] (as : List α) :
    (if c then some as else none).getD [] = if c then as else [] := by
  split <;> rfl

namespace Statement

/-- The fragments of a statement, asked of its bindings one by one. -/
def askFragments (s : Statement) (separate : Bool) (dialect : Dialect) :
    Except Lapse Fragments := do
  let apart ← s.result.ask (.hasNullableEmbed separate)
  let arguments ← s.params.ask .arguments
  let params ← s.params.ask .params
  let returnType ← s.result.askWhen s.hasResult .passedTypeText
  let returned ← s.result.ask .returned
  let scan ← s.result.ask (.scan separate)
  let scratchLines ← s.result.askWhen apart .scratchLines
  let presenceLines ← s.result.askWhen apart (.presenceLines .anyKey)
  let hasSlices ← s.params.ask .hasSlices
  let paramsStruct ← s.params.askWhen s.params.asStruct (.structFields false)
  let rowStruct ← s.result.ask (.structFields separate)
  let columnNames ← s.params.askWhen (s.command = .copyFrom) .listedNamesText
  .ok
    { methodName := s.methodName
      constantName := s.constantName
      command := s.command.tag
      arguments, params
      hasResult := s.hasResult
      returnType, returned, scan
      scratchLines := scratchLines.getD []
      presenceLines := presenceLines.getD []
      hasSlices
      paramsStruct := paramsStruct.getD []
      rowStruct, columnNames
      table := s.tableText dialect }

theorem askWhen_hasResult (s : Statement) :
    s.result.askWhen s.hasResult .passedTypeText = s.returnType.mapError .misuse := by
  rw [Binding.askWhen, returnType, Binding.ask_eq_answer, Binding.answer]
  split
  · cases s.result.passedTypeText with
    | error m => rfl
    | ok text => rfl
  · rfl

theorem askFragments_eq {s : Statement} {separate : Bool} {dialect : Dialect} {f : Fragments}
    (rendered : s.fragments separate dialect = .ok f) :
    s.askFragments separate dialect = .ok f := by
  obtain ⟨type, returned⟩ := s.exists_returnType
  rw [fragments, returned] at rendered
  rw [askFragments, askWhen_hasResult, returned]
  cases rendered
  have scratch := s.result.askWhen_eq_ok .scratchLines rfl
  have presence := s.result.askWhen_eq_ok (.presenceLines .anyKey) rfl
  have struct := s.params.askWhen_eq_ok (.structFields false) rfl
  have listed := s.params.askWhen_eq_ok .listedNamesText rfl
  simp only [Binding.ask_eq_answer, Binding.answer, mapError_ok, ok_bind, scratch, presence, struct,
    listed, getD_ite_some, decide_eq_true_eq]

end Statement

def Generator.askFragments (g : Generator) (s : Statement) : Except Lapse Fragments :=
  s.askFragments g.settings.nullableEmbeds g.dialect

/-- Every statement has fragments, and asking for them piece by piece gives the same ones: it comes
upon no binding without a type, no key position outside its embed, and no cut outside a name. -/
theorem Generator.rendering_total :
    (∀ (g : Generator) (s : Statement), ∃ f, g.fragments s = .ok f ∧ g.askFragments s = .ok f) ∧
    (∀ (embed : String) (fields : List Field) (keys : List String),
      StoredEmbed.present embed fields = (Embed.present embed fields).map Embed.stored ∧
      StoredEmbed.absentable embed fields keys =
        (Embed.absentable embed fields keys).map Embed.stored) ∧
    ∀ (b : Binding) (α : Type) (question : Question α),
      b.ask question = (b.answer question).mapError .misuse ∧
      ∀ l, b.ask question = .error l ↔
        b.isEmpty = true ∧ question.isAboutType = true ∧ l = .misuse .noType := by
  refine ⟨fun g s => ?_, fun embed fields keys => ?_, fun b α question => ?_⟩
  · obtain ⟨f, rendered⟩ := s.exists_fragments g.settings.nullableEmbeds g.dialect
    exact ⟨f, rendered, Statement.askFragments_eq rendered⟩
  · exact ⟨StoredEmbed.present_eq embed fields, StoredEmbed.absentable_eq embed fields keys⟩
  · exact ⟨b.ask_eq_answer question, fun l => Binding.ask_eq_error_iff⟩

end QueryBinding
