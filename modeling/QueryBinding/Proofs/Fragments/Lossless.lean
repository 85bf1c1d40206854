import QueryBinding.Fragments.Json
import QueryBinding.Proofs.Json.Layout

/-! # Fragments are handed on whole

Fragments hold source text with quotes, line breaks and escapes of its own, and are escaped once
more when they are handed on. Main statement: `toText_lossless`, that the text of fragments is JSON
of sixteen members from which each fragment is read back as it was. -/

namespace QueryBinding

namespace Reading

/-- A fragment that may be absent. -/
def ofText? : Option String → Reading
  | some text => .string text
  | none => .null

def ofTexts (texts : List String) : Reading := .array (texts.map .string) none

def ofArgument (a : Argument) : Reading :=
  .object [(.name "name", .string a.name), (.name "type", .string a.type)] none

def ofArguments (arguments : List Argument) : Reading := .array (arguments.map ofArgument) none

theorem ofText?_inj {a b : Option String} : ofText? a = ofText? b ↔ a = b := by
  cases a <;> cases b <;> simp [ofText?]

theorem ofTexts_inj {a b : List String} : ofTexts a = ofTexts b ↔ a = b := by
  have injective : Function.Injective Reading.string := fun _ _ => Reading.string.inj
  simp [ofTexts, (List.map_injective_iff.mpr injective).eq_iff]

theorem ofArguments_inj {a b : List Argument} : ofArguments a = ofArguments b ↔ a = b := by
  have injective : Function.Injective ofArgument := by
    rintro ⟨name, type⟩ ⟨name', type'⟩ same
    simpa [ofArgument] using same
  simp [ofArguments, (List.map_injective_iff.mpr injective).eq_iff]

end Reading

namespace Fragments

/-- What fragments are read back as. -/
def reading (f : Fragments) : Reading :=
  .object
    [ (.name "method_name", .string f.methodName),
      (.name "constant_name", .string f.constantName),
      (.name "cmd", .string f.command),
      (.name "arguments", .ofArguments f.arguments),
      (.name "params", .string f.params),
      (.name "has_ret_type", .bool f.hasResult),
      (.name "return_type", .ofText? f.returnType),
      (.name "return_name", .string f.returned),
      (.name "scan", .string f.scan),
      (.name "nullable_embed_temp_vars", .ofTexts f.scratchLines),
      (.name "nullable_embed_assignments", .ofTexts f.presenceLines),
      (.name "has_sqlc_slices", .bool f.hasSlices),
      (.name "params_struct", .ofArguments f.paramsStruct),
      (.name "row_struct", .ofArguments f.rowStruct),
      (.name "column_names", .ofText? f.columnNames),
      (.name "table", .ofText? f.table) ] none

end Fragments

theorem Json.reading_ofText? (text : Option String) :
    (Json.ofText? text).reading = .ofText? text := by
  cases text <;> rfl

theorem Json.reading_ofTexts (texts : List String) :
    (Json.ofTexts texts).reading = .ofTexts texts := by
  rw [ofTexts, reading, itemReadings_eq_map, List.map_map]
  rfl

theorem Json.reading_ofArguments (arguments : List Argument) :
    (Json.ofArguments arguments).reading = .ofArguments arguments := by
  rw [ofArguments, reading, itemReadings_eq_map, List.map_map]
  rfl

theorem Json.isWhole_ofText? (text : Option String) : (Json.ofText? text).IsWhole := by
  cases text <;> trivial

theorem Json.isWhole_ofTexts (texts : List String) : (Json.ofTexts texts).IsWhole := by
  simp [ofTexts, IsWhole, areWhole_iff]

theorem Json.isWhole_ofArguments (arguments : List Argument) :
    (Json.ofArguments arguments).IsWhole := by
  simp [ofArguments, IsWhole, areWhole_iff, Argument.json, MembersAreWhole]

theorem Json.depth_ofText? (text : Option String) : (Json.ofText? text).depth = 0 := by
  cases text <;> rfl

theorem Json.depth_ofTexts (texts : List String) : (Json.ofTexts texts).depth ≤ 1 := by
  have flat : itemsDepth (texts.map string) ≤ 0 := itemsDepth_le_iff.mpr (by simp [depth])
  exact Nat.succ_le_succ flat

theorem Json.depth_ofArguments (arguments : List Argument) :
    (Json.ofArguments arguments).depth ≤ 2 := by
  have pairs : itemsDepth (arguments.map Argument.json) ≤ 1 :=
    itemsDepth_le_iff.mpr (by simp [Argument.json, depth, membersDepth])
  exact Nat.succ_le_succ pairs

namespace Fragments

theorem reading_json (f : Fragments) : f.json.reading = f.reading := by
  simp only [json, Json.reading, Json.memberReadings, Json.reading_ofText?, Json.reading_ofTexts,
    Json.reading_ofArguments, reading]

theorem isWhole_json (f : Fragments) : f.json.IsWhole := by
  simp [json, Json.IsWhole, Json.membersAreWhole_iff, Json.isWhole_ofText?, Json.isWhole_ofTexts,
    Json.isWhole_ofArguments]

theorem depth_json (f : Fragments) : f.json.depth ≤ 3 := by
  have texts (lines : List String) : (Json.ofTexts lines).depth ≤ 2 :=
    (Json.depth_ofTexts lines).trans (by decide)
  refine Nat.succ_le_succ (Json.membersDepth_le_iff.mpr ?_)
  simp [Json.depth, Json.depth_ofText?, texts, Json.depth_ofArguments]

theorem reading_injective : Function.Injective reading := by
  intro f g same
  cases f
  cases g
  simp only [reading, Reading.object.injEq, List.cons.injEq, Prod.mk.injEq, Reading.string.injEq,
    Reading.bool.injEq, Reading.ofText?_inj, Reading.ofTexts_inj, Reading.ofArguments_inj,
    true_and, and_true] at same
  simp only [Fragments.mk.injEq]
  exact same

/-- The text of fragments is JSON, is read as an object with the sixteen members in order, and is
the text of no other fragments. -/
theorem toText_lossless (f : Fragments) :
    (∃ d : Document, d.text = f.toText) ∧
      JsonReader.document f.toText = (f.reading, none) ∧
      ∀ g : Fragments, g.toText = f.toText ↔ g = f := by
  have read (f : Fragments) : JsonReader.document f.toText = (f.reading, none) := by
    have shallow : f.json.depth ≤ JsonReader.deepest := f.depth_json.trans (by decide)
    rw [← f.reading_json]
    exact JsonReader.document_pretty f.isWhole_json shallow
  obtain ⟨d, written, -⟩ := f.json.exists_document f.isWhole_json
  refine ⟨⟨d, written⟩, read f, fun g => ⟨fun same => reading_injective ?_, congrArg toText⟩⟩
  have both := (read g).symm.trans ((congrArg JsonReader.document same).trans (read f))
  exact congrArg Prod.fst both

end Fragments

end QueryBinding
