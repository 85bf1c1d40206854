import QueryBinding.Generator

/-! # Rendering a statement

The type of a result is asked for only where there is a result, so that every statement has
fragments. What each fragment is made from is told here once; the fragments about nullable embeds
follow the setting of the run alone. Statements whose bindings agree on what is told have the same
fragments (`fragments_congr`). -/

namespace QueryBinding

theorem Binding.exists_passedTypeText {b : Binding} (h : b.isEmpty = false) :
    ∃ text, b.passedTypeText = .ok text := by
  obtain ⟨content, asStruct, byPointer, arrays⟩ := b
  cases content with
  | empty => cases h
  | scalar field => exact ⟨_, rfl⟩
  | record owner r => exact ⟨_, rfl⟩

/-- Whether there are nullable embeds need not be asked for lines that are written for each of
them. -/
theorem Binding.if_hasNullableEmbed {α : Type} (b : Binding) (separate : Bool) {lines : List α}
    (each : b.nullableEmbeds = [] → lines = []) :
    (if b.hasNullableEmbed separate then lines else []) = if separate then lines else [] := by
  cases separate with
  | false => rfl
  | true =>
      cases embeds : b.nullableEmbeds with
      | nil => rw [each embeds, ite_self, ite_self]
      | cons embed rest => rw [hasNullableEmbed, embeds]; rfl

namespace Statement

theorem exists_returnType (s : Statement) : ∃ type, s.returnType = .ok type := by
  unfold returnType
  split
  · next h =>
      have bound : s.result.isEmpty = false := by
        simpa only [Bool.not_eq_true'] using (Bool.and_eq_true_iff.mp h).2
      obtain ⟨text, passed⟩ := Binding.exists_passedTypeText bound
      exact ⟨some text, by rw [passed]; rfl⟩
  · exact ⟨none, rfl⟩

theorem exists_fragments (s : Statement) (separate : Bool) (dialect : Dialect) :
    ∃ f, s.fragments separate dialect = .ok f := by
  obtain ⟨type, returned⟩ := s.exists_returnType
  unfold fragments
  rw [returned]
  exact ⟨_, rfl⟩

/-- What the fragments of a statement are made from. -/
structure Rendered (s : Statement) (separate : Bool) (dialect : Dialect) (f : Fragments) :
    Prop where
  arguments : f.arguments = s.params.arguments
  hasResult : f.hasResult = s.hasResult
  returnType : s.returnType = .ok f.returnType
  returned : f.returned = s.result.returned
  scan : f.scan = s.result.scan separate
  scratchLines : f.scratchLines = if separate then s.result.scratchLines else []
  presenceLines : f.presenceLines = if separate then s.result.presenceLines .anyKey else []
  hasSlices : f.hasSlices = s.params.hasSlices
  paramsStruct : f.paramsStruct = if s.params.asStruct then s.params.structFields false else []
  rowStruct : f.rowStruct = s.result.structFields separate
  columnNames : f.columnNames =
    if s.command = .copyFrom then some s.params.listedNamesText else none
  table : f.table = s.tableText dialect

theorem rendered_of_fragments {s : Statement} {separate : Bool} {dialect : Dialect} {f : Fragments}
    (h : s.fragments separate dialect = .ok f) : s.Rendered separate dialect f := by
  obtain ⟨type, returned⟩ := s.exists_returnType
  rw [fragments, returned] at h
  cases h
  exact
    { arguments := rfl, hasResult := rfl, returnType := returned, returned := rfl, scan := rfl
      scratchLines := Binding.if_hasNullableEmbed _ _ fun none_nullable => by
        simp [Binding.scratchLines, Binding.declarations, none_nullable]
      presenceLines := Binding.if_hasNullableEmbed _ _ fun none_nullable => by
        simp [Binding.presenceLines, Binding.materializations, none_nullable]
      hasSlices := rfl, paramsStruct := rfl, rowStruct := rfl, columnNames := rfl, table := rfl }

end Statement

/-! ## Bindings of which the same is written -/

/-- Parameters that are told in no way apart by the fragments. -/
structure Binding.TakenAlike (b b' : Binding) : Prop where
  asStruct : b.asStruct = b'.asStruct
  arguments : b.arguments = b'.arguments
  boundParams : b.boundParams = b'.boundParams
  hasSlices : b.hasSlices = b'.hasSlices
  listedNames : b.listedNames = b'.listedNames
  structFields : b.structFields false = b'.structFields false

theorem Binding.TakenAlike.refl (b : Binding) : b.TakenAlike b := ⟨rfl, rfl, rfl, rfl, rfl, rfl⟩

/-- Results that are told in no way apart by the fragments, whatever the setting for nullable
embeds. -/
structure Binding.GivenAlike (b b' : Binding) : Prop where
  isEmpty : b.isEmpty = b'.isEmpty
  passedTypeText : b.passedTypeText = b'.passedTypeText
  returned : b.returned = b'.returned
  structFields (separate : Bool) : b.structFields separate = b'.structFields separate
  destinations (separate : Bool) :
    (b.destinations separate).map Destination.text = (b'.destinations separate).map Destination.text
  hasNullableEmbed (separate : Bool) : b.hasNullableEmbed separate = b'.hasNullableEmbed separate
  declarations : b.declarations = b'.declarations
  presenceLines (rule : PresenceRule) : b.presenceLines rule = b'.presenceLines rule

theorem Binding.GivenAlike.refl (b : Binding) : b.GivenAlike b :=
  ⟨rfl, rfl, rfl, fun _ => rfl, fun _ => rfl, fun _ => rfl, rfl, fun _ => rfl⟩

theorem Statement.fragments_congr {taken taken' given given' : Binding}
    (params : taken.TakenAlike taken') (result : given.GivenAlike given') (s : Statement)
    (separate : Bool) (dialect : Dialect) :
    fragments { s with params := taken, result := given } separate dialect =
      fragments { s with params := taken', result := given' } separate dialect := by
  simp only [fragments, returnType, hasResult, tableText, Binding.params, Binding.scan,
    Binding.scratchLines, Binding.listedNamesText, params.asStruct, params.arguments,
    params.boundParams, params.hasSlices, params.listedNames, params.structFields, result.isEmpty,
    result.passedTypeText, result.returned, result.structFields, result.destinations,
    result.hasNullableEmbed, result.declarations, result.presenceLines]
  rfl

end QueryBinding
