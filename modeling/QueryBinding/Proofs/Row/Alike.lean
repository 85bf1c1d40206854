import Mathlib.Data.List.Forall2
import QueryBinding.Proofs.Row.Blocks
import QueryBinding.Proofs.Run.Rendering

/-! # Rows that are shown alike

What the fragments tell of a row is told field by field. Two rows whose fields agree on it, one by
one, are told apart by no fragment, however else they differ. Main statement:
`givenAlike_of_alike`. -/

namespace QueryBinding

/-- Fields that a row shows alike: by the same slot, the same destinations and the same block. -/
structure Field.Alike (f g : Field) : Prop where
  name : f.name = g.name
  nullableEmbed : f.nullableEmbed? = g.nullableEmbed?
  slotType (separate : Bool) : (f.slotType separate).text = (g.slotType separate).text
  destinations (arrays : ArraySupport) (owner : String) (separate : Bool) :
    (arrays.fieldDestinations owner separate f).map Destination.text =
      (arrays.fieldDestinations owner separate g).map Destination.text
  block (owner : String) (rule : PresenceRule) :
    f.presenceBlock owner rule = g.presenceBlock owner rule

theorem Field.Alike.refl (f : Field) : f.Alike f :=
  ⟨rfl, rfl, fun _ => rfl, fun _ _ _ => rfl, fun _ _ => rfl⟩

theorem map_eq_of_forall₂ {α β : Type} {R : α → α → Prop} {g : α → β} {xs ys : List α}
    (related : List.Forall₂ R xs ys) (same : ∀ x y, R x y → g x = g y) : xs.map g = ys.map g := by
  rw [← List.forall₂_eq_eq_eq, List.forall₂_map_left_iff, List.forall₂_map_right_iff]
  exact related.imp same

section Lists

variable {fields fields' : List Field} (alike : List.Forall₂ Field.Alike fields fields')
include alike

theorem firstOfEachName_alike :
    List.Forall₂ Field.Alike (firstOfEachName fields) (firstOfEachName fields') := by
  induction alike with
  | nil => exact .nil
  | @cons f f' _ _ first _ ih =>
      rw [firstOfEachName, firstOfEachName]
      refine .cons first (List.rel_filter ?_ ih)
      intro g g' other
      simp only [first.name, other.name]

theorem nullableEmbeds_alike (name : String) :
    (Record.nullableEmbeds ⟨name, fields⟩).map (fun (f, e) => (f.name, e)) =
      (Record.nullableEmbeds ⟨name, fields'⟩).map fun (f, e) => (f.name, e) := by
  have embeds := map_eq_of_forall₂ alike fun f g same =>
    show f.nullableEmbed?.map (f.name, ·) = g.nullableEmbed?.map (g.name, ·) by
      rw [same.name, same.nullableEmbed]
  have kept := congrArg (List.filterMap id) embeds
  simp only [List.filterMap_map, Function.comp_def, id_eq] at kept
  simpa only [Record.nullableEmbeds, List.map_filterMap, Option.map_map, Function.comp_def]
    using kept

theorem flatMap_alike {β : Type} {g : Field → List β}
    (same : ∀ x y : Field, x.Alike y → g x = g y) : fields.flatMap g = fields'.flatMap g := by
  rw [List.flatMap_def, List.flatMap_def, map_eq_of_forall₂ alike same]

end Lists

namespace Binding

variable {fields fields' : List Field} (alike : List.Forall₂ Field.Alike fields fields')
variable (owner name : String) (asStruct byPointer : Bool) (arrays : ArraySupport)
include alike

theorem structFields_alike (separate : Bool) :
    structFields ⟨.record owner ⟨name, fields⟩, asStruct, byPointer, arrays⟩ separate =
      structFields ⟨.record owner ⟨name, fields'⟩, asStruct, byPointer, arrays⟩ separate := by
  apply map_eq_of_forall₂ (firstOfEachName_alike alike)
  intro f g same
  rw [same.name, same.slotType]

theorem givenAlike_of_alike :
    GivenAlike ⟨.record owner ⟨name, fields⟩, asStruct, byPointer, arrays⟩
      ⟨.record owner ⟨name, fields'⟩, asStruct, byPointer, arrays⟩ where
  isEmpty := rfl
  passedTypeText := rfl
  returned := rfl
  structFields := structFields_alike alike owner name asStruct byPointer arrays
  destinations separate := by
    rw [destinations_record, destinations_record, List.map_flatMap, List.map_flatMap]
    exact flatMap_alike alike fun f g same => same.destinations arrays owner separate
  hasNullableEmbed separate := by
    have none := congrArg List.isEmpty (nullableEmbeds_alike alike name)
    simp only [List.isEmpty_map] at none
    rw [hasNullableEmbed, hasNullableEmbed, nullableEmbeds_record, nullableEmbeds_record, none]
  declarations := by
    have declared := congrArg (List.flatMap fun (embed : String × Embed) =>
      embed.2.columns.map fun c => Declaration.mk ⟨owner, embed.1, c.name⟩ c.type.toNullable)
      (nullableEmbeds_alike alike name)
    rwa [List.flatMap_map, List.flatMap_map] at declared
  presenceLines rule := by
    rw [presenceLines_record, presenceLines_record]
    exact flatMap_alike alike fun f g same => same.block owner rule

end Binding

end QueryBinding
