import QueryBinding.Proofs.Go.Layout
import QueryBinding.Proofs.GoType.RoundTrip
import QueryBinding.Proofs.Query.Fields
import QueryBinding.Proofs.Query.Statement
import QueryBinding.Proofs.Request.Transmission
import QueryBinding.Proofs.Run.Sequence

/-! # Fragments that fit together

The fragments of a query are rendered one by one, and a template relies on which of them go
together. What goes together is told here by the query and the settings of its run, without a look
at bindings. Main statement: `fragments_coherent`, for every query of every run that succeeds. -/

namespace QueryBinding

/-- Whether rows are structs: they have several columns, or an embed for their only one. -/
def QuerySpec.HasRowStruct (q : QuerySpec) : Prop :=
  2 ≤ q.columns.length ∨ ∃ c, q.columns = [c] ∧ c.embed ≠ none

def QuerySpec.Returns (q : QuerySpec) : Prop :=
  q.command ∈ [":one", ":many", ":batchone", ":batchmany"] ∧ q.columns ≠ []

/-- The fragments of a query go together as the query and the settings say. -/
structure Fragments.Coherent (s : Settings) (q : QuerySpec) (f : Fragments) : Prop where
  hasResult : f.hasResult = true ↔ q.Returns
  returnType : f.returnType ≠ none ↔ q.Returns
  table : f.table ≠ none ↔ q.command = ":copyfrom"
  columnNames : f.columnNames ≠ none ↔ q.command = ":copyfrom"
  rowStruct : f.rowStruct ≠ [] ↔ q.HasRowStruct
  /-- A struct is returned under its name, or by a pointer to it. -/
  returnedStruct : q.HasRowStruct →
    (∀ type ∈ f.returnType, type = if s.resultsByPointer then "*" ++ (q.name ++ "Row")
      else q.name ++ "Row") ∧
    f.returned = if s.resultsByPointer then "&i" else "i"
  /-- A single value is returned in the type that the query spells. -/
  returnedValue : ¬ q.HasRowStruct → ∀ type ∈ f.returnType, ∃ c, q.columns = [c] ∧ type = c.type
  scan : f.scan = "" ↔ q.columns = []
  hasSlices : f.hasSlices = true ↔ ∃ p ∈ q.params, p.embed = none ∧ p.isSlice = true

theorem Command.isScanned_iff {c : Command} :
    c.isScanned = true ↔ c.tag ∈ [":one", ":many", ":batchone", ":batchmany"] := by
  cases c <;> decide

theorem adapted_ne_empty {expression : String} (h : expression ≠ "") (adapter : Option String) :
    adapted adapter expression ≠ "" := by
  cases adapter with
  | none => exact h
  | some function => simp [adapted]

theorem Destination.text_ne_empty (d : Destination) : d.text ≠ "" :=
  adapted_ne_empty (by simp) d.adapter

theorem Field.columns_ne_nil (f : Field) : f.columns ≠ [] := by
  cases embed : f.embed with
  | none => simp [embed]
  | some e => simpa [embed] using e.columns_ne_nil

theorem Field.spread_of_build {spec : FieldSpec} {f : Field} (h : spec.build = .ok f) :
    f.spread = true ↔ spec.embed = none ∧ spec.isSlice = true := by
  obtain ⟨name, plain, -, rfl⟩ | ⟨e, name, fields, joined, embed, -, -, -, rfl⟩ :=
    FieldSpec.cases_of_build h
  · simp [plain]
  · simp [embed]

namespace QuerySpec

variable {q : QuerySpec} {s : Settings} {arrays : ArraySupport}
variable {params columns : List Field} {command : Command} {table : Option TableName}

theorem table_ne_none_iff (target : q.table command = .ok table) :
    table ≠ none ↔ command = .copyFrom := by
  unfold QuerySpec.table at target
  split at target
  · cases target
  · cases target
    exact ⟨fun _ => rfl, fun _ => Option.some_ne_none _⟩
  · next not_without not_with =>
      cases target
      refine ⟨fun absent => absurd rfl absent, ?_⟩
      rintro rfl
      cases goal : q.target with
      | none => exact (not_without rfl goal).elim
      | some name => exact (not_with name rfl goal).elim

theorem hasSlices_paramsBinding :
    (q.paramsBinding s arrays params).hasSlices = params.any (·.spread) := by
  obtain ⟨rfl, bound⟩ | ⟨f, rfl, -, bound⟩ | ⟨-, bound⟩ :=
    q.cases_paramsBinding s arrays params <;> simp [bound]

theorem hasSlices_iff (given : FieldSpec.buildAll q.params = .ok params) :
    (q.paramsBinding s arrays params).hasSlices = true ↔
      ∃ p ∈ q.params, p.embed = none ∧ p.isSlice = true := by
  rw [hasSlices_paramsBinding]
  have built := FieldSpec.buildAll_eq_ok_iff.mp given
  clear given
  generalize q.params = specs at built ⊢
  induction built with
  | nil => simp
  | cons first _ ih =>
      simp only [List.any_cons, Bool.or_eq_true, Field.spread_of_build first, ih,
        List.exists_mem_cons_iff]

/-- A row is a struct if several columns are described, or an embed. -/
theorem cases_row (s : Settings) (arrays : ArraySupport)
    (taken : FieldSpec.buildAll q.columns = .ok columns) :
    (q.columns = [] ∧ q.resultBinding s arrays columns = .ofNothing arrays) ∨
    (∃ spec f, q.columns = [spec] ∧ spec.embed = none ∧ spec.build = .ok f ∧
      q.resultBinding s arrays columns = .ofField f.asVariable arrays) ∨
    (q.HasRowStruct ∧ columns ≠ [] ∧ q.resultBinding s arrays columns =
      ⟨.record rowVariable ⟨q.name ++ "Row", columns⟩, true, s.resultsByPointer, arrays⟩) := by
  have built := FieldSpec.buildAll_eq_ok_iff.mp taken
  rw [HasRowStruct]
  obtain ⟨rfl, bound⟩ | ⟨f, rfl, plain, bound⟩ | ⟨some_field, struct, bound⟩ :=
    q.cases_resultBinding s arrays columns
  · exact .inl ⟨List.forall₂_nil_right_iff.mp built, bound⟩
  · obtain ⟨spec, rest, first, others, specs⟩ := List.forall₂_cons_right_iff.mp built
    cases others
    have embed := FieldSpec.isEmbed_of_build first
    exact .inr (.inl ⟨spec, f, specs, by simpa [Field.isEmbed, plain] using embed, first, bound⟩)
  · refine .inr (.inr ⟨?_, some_field, bound⟩)
    generalize q.columns = specs at built
    cases built with
    | nil => exact absurd rfl some_field
    | @cons spec f others rest first built =>
        cases built with
        | nil =>
            have embed := FieldSpec.isEmbed_of_build first
            refine .inr ⟨spec, rfl, fun plain => struct f rfl ?_⟩
            simpa [Field.isEmbed, plain] using embed
        | cons second built => exact .inl (by simp)

end QuerySpec

theorem Binding.destinations_ne_nil {owner : String} {r : Record} (some_field : r.fields ≠ [])
    (asStruct byPointer : Bool) (arrays : ArraySupport) (separate : Bool) :
    destinations ⟨.record owner r, asStruct, byPointer, arrays⟩ separate ≠ [] := by
  obtain ⟨first, rest, fields⟩ := List.exists_cons_of_ne_nil some_field
  obtain ⟨column, others, columns⟩ := List.exists_cons_of_ne_nil first.columns_ne_nil
  rw [destinations_eq_sites, Record.sites, fields, List.flatMap_cons, Field.sites, columns]
  exact List.cons_ne_nil _ _

theorem Binding.scan_eq_empty_iff {b : Binding} {separate : Bool} :
    b.scan separate = "" ↔ b.destinations separate = [] := by
  rw [scan, Go.callLayout_eq_empty_iff, List.map_eq_nil_iff]
  simp [Destination.text_ne_empty]

theorem Binding.structFields_ne_nil {owner : String} {r : Record} (some_field : r.fields ≠ [])
    (asStruct byPointer : Bool) (arrays : ArraySupport) (separate : Bool) :
    structFields ⟨.record owner r, asStruct, byPointer, arrays⟩ separate ≠ [] := by
  obtain ⟨first, rest, fields⟩ := List.exists_cons_of_ne_nil some_field
  simp [structFields, Record.uniqueFields, fields, firstOfEachName]

namespace QuerySpec

variable {q : QuerySpec} {s : Settings} {arrays : ArraySupport} {columns : List Field}

/-- What a row is bound as, as far as the fragments show it. -/
structure RowFits (q : QuerySpec) (s : Settings) (b : Binding) : Prop where
  isEmpty : b.isEmpty = true ↔ q.columns = []
  scan (separate : Bool) : b.scan separate = "" ↔ q.columns = []
  structFields (separate : Bool) : b.structFields separate ≠ [] ↔ q.HasRowStruct
  struct : q.HasRowStruct →
    b.passedTypeText = .ok (if s.resultsByPointer then "*" ++ (q.name ++ "Row")
      else q.name ++ "Row") ∧
    b.returned = if s.resultsByPointer then "&i" else "i"
  value : ¬ q.HasRowStruct → q.columns ≠ [] →
    ∃ c, q.columns = [c] ∧ b.passedTypeText = .ok c.type

theorem rowFits (taken : FieldSpec.buildAll q.columns = .ok columns) :
    q.RowFits s (q.resultBinding s arrays columns) := by
  obtain ⟨empty, bound⟩ | ⟨spec, f, single, plain, built, bound⟩ | ⟨struct, some_field, bound⟩ :=
    cases_row s arrays taken
  · have scalar : ¬ q.HasRowStruct := by simp [HasRowStruct, empty]
    rw [bound]
    exact
      { isEmpty := by simp [empty]
        scan := fun separate => by simp [Binding.scan_eq_empty_iff, empty]
        structFields := fun separate => by simp [scalar]
        struct := fun h => absurd h scalar
        value := fun _ h => absurd empty h }
  · have scalar : ¬ q.HasRowStruct := by simp [HasRowStruct, single, plain]
    rw [bound]
    exact
      { isEmpty := by simp [single]
        scan := fun separate => by simp [Binding.scan_eq_empty_iff, single]
        structFields := fun separate => by simp [scalar]
        struct := fun h => absurd h scalar
        value := fun _ _ =>
          ⟨spec, single, by simp [FieldSpec.type_of_build built plain, GoType.text_parse]⟩ }
  · have some_column : q.columns ≠ [] := by
      rintro none_left
      simp [HasRowStruct, none_left] at struct
    rw [bound]
    exact
      { isEmpty := by simp [some_column]
        scan := fun separate => by
          simp only [Binding.scan_eq_empty_iff, some_column, iff_false]
          exact Binding.destinations_ne_nil some_field _ _ _ _
        structFields := fun separate => by
          simp only [struct, iff_true]
          exact Binding.structFields_ne_nil some_field _ _ _ _
        struct := fun _ => by
          rw [Binding.passedTypeText_record, Binding.returned_record]
          exact ⟨rfl, rfl⟩
        value := fun scalar => absurd struct scalar }

end QuerySpec

/-- A return type is there exactly if there is a result, and is the type the result is passed in. -/
theorem Statement.of_returnType {s : Statement} {type? : Option String}
    (returned : s.returnType = .ok type?) :
    (type? ≠ none ↔ s.hasResult = true) ∧
      ∀ type ∈ type?, s.result.passedTypeText = .ok type := by
  unfold returnType at returned
  split at returned
  · next result =>
      obtain ⟨type, passed, rfl⟩ := map_eq_ok_iff.mp returned
      simp [result, passed]
  · next result =>
      cases returned
      simp [result]

theorem Fragments.coherent_of_renders {g : Generator} {q : QuerySpec} {f : Fragments}
    (rendered : g.Renders q f) : f.Coherent g.settings q := by
  obtain ⟨st, made, shown⟩ := rendered
  obtain ⟨driver, command, table, params, columns, -, known, -, target, given, taken, rfl⟩ :=
    Statement.ofQuery_eq_ok_iff.mp made
  have tagged := QuerySpec.ofTag?_of_knownCommand known
  have tag : command.tag = q.command := Command.tag_of_ofTag? tagged
  have copies : command = .copyFrom ↔ q.command = ":copyfrom" := Command.eq_copyFrom_iff tagged
  have row : q.RowFits g.settings (q.resultBinding g.settings driver.arrays columns) :=
    QuerySpec.rowFits taken
  have told := Statement.rendered_of_fragments shown
  obtain ⟨present, passed⟩ := Statement.of_returnType told.returnType
  have returns : f.hasResult = true ↔ q.Returns := by
    rw [told.hasResult, Statement.hasResult, Bool.and_eq_true, QuerySpec.Returns, ← tag,
      ← Command.isScanned_iff, Bool.not_eq_true', Ne, ← row.isEmpty, Bool.not_eq_true]
    rfl
  refine
    { hasResult := returns
      returnType := by rw [present, ← told.hasResult, returns]
      table := ?_
      columnNames := ?_
      rowStruct := by rw [told.rowStruct]; exact row.structFields _
      returnedStruct := fun struct => ⟨fun type member => ?_, ?_⟩
      returnedValue := fun scalar type member => ?_
      scan := by rw [told.scan]; exact row.scan _
      hasSlices := by rw [told.hasSlices]; exact QuerySpec.hasSlices_iff given }
  · rw [told.table, Statement.tableText, Ne, Option.map_eq_none_iff,
      ← copies]
    exact QuerySpec.table_ne_none_iff target
  · rw [told.columnNames, ← copies]
    simp only [ne_eq, ite_eq_right_iff, reduceCtorEq, imp_false, not_not]
    rfl
  · exact Except.ok.inj ((passed type member).symm.trans (row.struct struct).1)
  · rw [told.returned]
    exact (row.struct struct).2
  · have some_column : q.columns ≠ [] := by
      have some_type : f.returnType ≠ none := Option.ne_none_iff_exists'.mpr ⟨type, member⟩
      rw [present, ← told.hasResult, returns] at some_type
      exact some_type.2
    obtain ⟨c, single, type_eq⟩ := row.value scalar some_column
    exact ⟨c, single, Except.ok.inj ((passed type member).symm.trans type_eq)⟩

/-- The fragments of a run fit together, query by query. -/
theorem Generator.fragments_coherent {text : String} {fragments : List Fragments}
    (ran : run text = .ok fragments) :
    ∃ r, Request.ofText text = .ok r ∧
      List.Forall₂ (fun q f => f.Coherent r.settings q) r.queries fragments := by
  obtain ⟨r, read, ran⟩ := bind_eq_ok_iff.mp ran
  obtain ⟨g, made, ran⟩ := bind_eq_ok_iff.mp ran
  obtain ⟨statements, built, generated⟩ := bind_eq_ok_iff.mp ran
  rw [mapError_eq_ok_iff] at read made built generated
  refine ⟨r, read, ?_⟩
  rw [← settings_of_ofSettings made]
  exact (renders_of_build built generated).imp fun _ _ rendered =>
    Fragments.coherent_of_renders rendered

/-- A query for one row of two columns, by a list that is expanded. -/
def QuerySpec.lookup : QuerySpec where
  name := "FindBook"
  command := ":one"
  text := "SELECT id, title FROM book WHERE id IN (sqlc.slice('ids')) LIMIT 1"
  params := [{ dbName := "ids", type := "[]int64", isSlice := true }]
  columns := [{ dbName := "id", type := "int64" }, { dbName := "title", type := "string" }]

def Request.lookup : Request := { settings := { resultsByPointer := true }, queries := [.lookup] }

/-- The fragments of such a request return a pointer to a struct and have no table. -/
theorem Generator.fragments_coherent_pointer :
    ∃ f, run Request.lookup.toText = .ok [f] ∧
      f.returnType = some "*FindBookRow" ∧ f.returned = "&i" ∧ f.rowStruct ≠ [] ∧ f.scan ≠ "" ∧
      f.hasSlices = true ∧ f.table = none ∧ f.columnNames = none := by
  have read := Request.ofText_toText (r := Request.lookup) (by decide)
  have behind : run Request.lookup.toText = Request.lookup.fragments := by
    rw [run, read, mapError_ok, ok_bind, Request.fragments]
  have goes_through : Request.lookup.fragments.isOk = true := by decide +kernel
  cases ran : Request.lookup.fragments with
  | error e =>
      rw [ran] at goes_through
      cases goes_through
  | ok fragments =>
      rw [ran] at behind
      obtain ⟨r, again, coherent⟩ := fragments_coherent behind
      cases read.symm.trans again
      obtain ⟨f, _, fits, ⟨⟩, rfl⟩ := List.forall₂_cons_left_iff.mp coherent
      have struct : QuerySpec.lookup.HasRowStruct := .inl (by decide)
      have returns : QuerySpec.lookup.Returns := ⟨by decide, List.cons_ne_nil _ _⟩
      have no_copy : QuerySpec.lookup.command ≠ ":copyfrom" := by decide
      obtain ⟨type, returned⟩ := Option.ne_none_iff_exists'.mp (fits.returnType.mpr returns)
      have pointer : type = "*FindBookRow" := (fits.returnedStruct struct).1 type returned
      refine ⟨f, behind, pointer ▸ returned, (fits.returnedStruct struct).2,
        fits.rowStruct.mpr struct, fun empty => ?_,
        fits.hasSlices.mpr ⟨_, List.mem_cons_self, rfl, rfl⟩, ?_, ?_⟩
      · cases fits.scan.mp empty
      · by_contra given
        exact no_copy (fits.table.mp given)
      · by_contra given
        exact no_copy (fits.columnNames.mp given)

end QueryBinding
