import QueryBinding.Proofs.Row.Blocks
import QueryBinding.Proofs.Run.Rendering

/-! # Scratch variables of a row

The sites of nullable embeds decide everything that is written about scratch variables: which are
declared, which a scan addresses, which are tested, and which are read back. Main statement:
`fragments_scratch`, that the fragments of a statement agree on them. -/

namespace QueryBinding

theorem Record.flatMap_nullableEmbeds {α : Type} (r : Record) (g : Field → Column → α) :
    (r.nullableEmbeds.flatMap fun (f, e) => e.columns.map (g f)) =
      (r.sites.filter Site.absentable).map fun s => g s.field s.column := by
  unfold nullableEmbeds sites
  induction r.fields with
  | nil => rfl
  | cons f rest ih =>
      rw [List.flatMap_cons, List.filter_append, List.map_append, ← ih]
      cases nullable : f.nullableEmbed? <;> simp [nullable, Function.comp_def]

namespace Binding

theorem declarations_eq (b : Binding) : b.declarations =
    b.absentSites.map fun s => ⟨s.scratch b.varName, s.column.type.toNullable⟩ := by
  obtain ⟨content, asStruct, byPointer, arrays⟩ := b
  cases content with
  | empty => rfl
  | scalar field => rfl
  | record owner r =>
      exact r.flatMap_nullableEmbeds fun f c =>
        Declaration.mk ⟨owner, f.name, c.name⟩ c.type.toNullable

theorem scratchLines_eq (b : Binding) : b.scratchLines = b.absentSites.map fun s =>
    "var " ++ (b.varName ++ "Embed" ++ s.field.name ++ s.column.name) ++ " " ++
      s.column.type.toNullable.text := by
  simp [scratchLines, declarations_eq, Declaration.text, Function.comp_def]

/-- The lines after a scan read each of the variables declared for it, in the same order. -/
theorem fills_presenceLines (b : Binding) (rule : PresenceRule) :
    Fills b.varName rule b.rowFields (b.presenceLines rule) b.absentSites := by
  obtain ⟨content, asStruct, byPointer, arrays⟩ := b
  cases content with
  | empty => exact .nil
  | scalar field => exact .nil
  | record owner r =>
      rw [presenceLines_record, rowFields_record, absentSites_record]
      exact fills_presenceBlocks owner rule r.fields

/-- The entries of a scan, with the sites whose scratch variables they address: every other entry
addresses a place in the row's own variable, the same in every run. -/
inductive Addresses (b : Binding) : List String → List Site → Prop
  | nil : b.Addresses [] []
  | held {c : Column} {path : String} {entries : List String} {sites : List Site} :
      (∀ separate, b.Reaches separate c path) → b.Addresses entries sites →
      b.Addresses (b.arrays.pointer c.type path :: entries) sites
  | scratch {s : Site} {entries : List String} {sites : List Site} : b.Addresses entries sites →
      b.Addresses (b.arrays.pointer s.column.type
        (b.varName ++ "Embed" ++ s.field.name ++ s.column.name) :: entries) (s :: sites)

theorem addresses_sites {owner : String} {r : Record} {asStruct byPointer : Bool}
    {arrays : ArraySupport} {sites : List Site} (inRow : sites ⊆ r.sites) :
    Addresses ⟨.record owner r, asStruct, byPointer, arrays⟩
      (sites.map fun s => arrays.pointer s.column.type (s.place owner true).text)
      (sites.filter Site.absentable) := by
  induction sites with
  | nil => exact .nil
  | cons s rest ih =>
      obtain ⟨member, inRow⟩ := List.cons_subset.mp inRow
      rw [List.map_cons]
      cases absentable : s.absentable with
      | true =>
          rw [List.filter_cons_of_pos absentable, Site.text_place_of_absentable absentable]
          exact .scratch (ih inRow)
      | false =>
          rw [List.filter_cons_of_neg (Bool.eq_false_iff.mp absentable)]
          refine .held (fun separate => ?_) (ih inRow)
          rw [Site.place_of_not_absentable absentable owner true,
            ← Site.place_of_not_absentable absentable owner separate]
          exact reaches_of_mem_sites member owner asStruct byPointer arrays separate

/-- A scan that separates nullable embeds takes the column of each of their sites into the scratch
variable of that site. -/
theorem addresses_pointers (b : Binding) :
    b.Addresses (b.pointers true) b.absentSites := by
  obtain ⟨content, asStruct, byPointer, arrays⟩ := b
  cases content with
  | empty => exact .nil
  | scalar field => exact .held (fun _ => .var rfl) .nil
  | record owner r =>
      rw [pointers_record, absentSites_record]
      exact addresses_sites (List.Subset.refl r.sites)

end Binding

/-- Every statement has fragments, and they agree on the scratch variables of nullable embeds.
Unless the run separates nullable embeds there are none, and a scan stays inside the row's variable.
If it does, the variables that the scan addresses are those that are declared, and those that are
read back, one for each site of the row that may be absent; each is declared in the type for its
column that can hold NULL, and read back in the column's own. -/
theorem Generator.fragments_scratch (g : Generator) (s : Statement) :
    ∃ f entries, g.fragments s = .ok f ∧ Go.Lists f.scan entries ∧
      (g.settings.nullableEmbeds = false →
        (∀ entry ∈ entries, ∃ c path, s.result.Reaches false c path ∧
          entry = s.result.arrays.pointer c.type path) ∧
        f.scratchLines = [] ∧ f.presenceLines = []) ∧
      (g.settings.nullableEmbeds = true → ∃ sites : List Site,
        s.result.Addresses entries sites ∧
        (f.scratchLines = sites.map fun site =>
          "var " ++ (s.result.varName ++ "Embed" ++ site.field.name ++ site.column.name) ++ " " ++
            site.column.type.toNullable.text) ∧
        Fills s.result.varName .anyKey s.result.rowFields f.presenceLines sites) := by
  obtain ⟨f, rendered⟩ := s.exists_fragments g.settings.nullableEmbeds g.dialect
  have told := Statement.rendered_of_fragments rendered
  have scratch := told.scratchLines
  have presence := told.presenceLines
  refine ⟨f, s.result.pointers g.settings.nullableEmbeds, rendered, ?_, ?_, ?_⟩
  · rw [told.scan]
    exact s.result.lists_scan g.settings.nullableEmbeds
  · intro direct
    rw [direct] at scratch presence ⊢
    exact ⟨fun entry listed => Binding.reaches_of_mem_pointers listed, scratch, presence⟩
  · intro apart
    rw [apart] at scratch presence ⊢
    refine ⟨s.result.absentSites, s.result.addresses_pointers, ?_, ?_⟩
    · exact scratch.trans s.result.scratchLines_eq
    · exact presence ▸ s.result.fills_presenceLines .anyKey

end QueryBinding
