import QueryBinding.Proofs.GoType.Record
import QueryBinding.Proofs.Query.Checks
import QueryBinding.Proofs.Row.Slot
import QueryBinding.Statement.Build

/-! # Slots that are scanned into directly

A scan that addresses the columns of an embed as fields of its slot needs the slot to be the struct
of the embed: a slot of type `sql.Null[T]` has no such fields. The scan looks at the embed and the
setting of the run, and the type of the slot comes from the type of the field, of which at most one
layer is taken off. Main statement: `direct_slot_bare_iff`, how many layers a slot may have been
written in. -/

namespace QueryBinding

variable {owner : String} {arrays : ArraySupport} {separate : Bool} {f : Field} {e : Embed}

/-- How many layers of `sql.Null[T]` are taken off the type of an embed that is scanned into
directly. -/
def Embed.layersTaken (e : Embed) : Nat := if e.nullable then 1 else 0

theorem Binding.take_drop_pointers (owner : String) (asStruct byPointer : Bool)
    (arrays : ArraySupport) (name : String) (before after : List Field) (f : Field)
    (separate : Bool) :
    ((pointers ⟨.record owner ⟨name, before ++ f :: after⟩, asStruct, byPointer, arrays⟩
      separate).drop (before.map Field.width).sum).take f.width =
    f.sites.map fun s => arrays.pointer s.column.type (s.place owner separate).text := by
  have ahead : (before.map Field.width).sum = ((before.flatMap Field.sites).map fun s =>
      arrays.pointer s.column.type (s.place owner separate).text).length := by
    simp [List.length_flatMap]
  rw [pointers_record, Record.sites, List.flatMap_append, List.flatMap_cons, List.map_append,
    List.map_append, ahead, List.drop_left, List.take_left' (by simp)]

/-- The columns of an embed go straight to its slot unless it may be absent and scratch variables
are asked for. -/
theorem ArraySupport.pointers_embedded_iff (embed : f.embed = some e) :
    (f.sites.map fun s => arrays.pointer s.column.type (s.place owner separate).text) =
        e.columns.map (fun c => arrays.pointer c.type (owner ++ "." ++ f.name ++ "." ++ c.name)) ↔
      (e.nullable && separate) = false := by
  rw [Field.sites_of_embed embed, List.map_map]
  simp only [Function.comp_def, Site.place_of_embed embed]
  cases apart : e.nullable && separate with
  | false => exact iff_of_true rfl rfl
  | true =>
      refine iff_of_false ?_ nofun
      intro same
      obtain ⟨c, rest, columns⟩ := List.exists_cons_of_ne_nil e.columns_ne_nil
      rw [columns, List.map_cons, List.map_cons, List.cons.injEq, pointer_right_inj] at same
      have held : (Site.mk f c).held owner = .embedded owner f.name c.name :=
        Site.held_of_embed embed owner
      have inStruct := (congrArg Place.text held).trans same.1.symm
      exact Site.text_held_ne_name_scratch (t := ⟨f, c⟩) inStruct

theorem Field.slotType_of_embed (embed : f.embed = some e)
    (direct : (e.nullable && separate) = false) :
    f.slotType separate = if e.nullable then f.type.stripNull else f.type := by
  cases nullable : e.nullable with
  | false =>
      have present : f.nullableEmbed? = none := by
        rw [nullableEmbed?, embed, Option.filter_some, nullable]
        rfl
      rw [slotType, present]
      rfl
  | true =>
      have absentable := nullableEmbed?_eq_some_iff.mpr ⟨embed, nullable⟩
      rw [nullable, Bool.true_and] at direct
      rw [slotType, absentable, direct]
      rfl

theorem Field.core_slotType (embed : f.embed = some e)
    (direct : (e.nullable && separate) = false) : (f.slotType separate).core = f.type.core := by
  rw [slotType_of_embed embed direct]
  split
  · exact f.type.core_stripNull
  · rfl

theorem Field.layers_slotType (embed : f.embed = some e)
    (direct : (e.nullable && separate) = false) :
    (f.slotType separate).layers = f.type.layers - e.layersTaken := by
  rw [slotType_of_embed embed direct, Embed.layersTaken]
  split
  · exact f.type.layers_stripNull
  · rfl

namespace Binding

variable (owner : String) (asStruct byPointer : Bool) (arrays : ArraySupport)

/-- Where a scan of a record addresses the columns of an embed as fields of its slot, and the embed
is the first field of its name, the slot is the embedded struct itself if and only if its type was
written in no more layers of `sql.Null` than are taken off: none for a table that is always present,
and one for a table that may be absent. In all other cases the slot is a `sql.Null[T]`. -/
theorem direct_slot_bare_iff {before after : List Field} {f : Field} {e : Embed}
    (first : ∀ g ∈ before, g.name ≠ f.name) (embed : f.embed = some e) (name : String)
    (separate : Bool) :
    let b : Binding := ⟨.record owner ⟨name, before ++ f :: after⟩, asStruct, byPointer, arrays⟩
    let scanned := ((b.pointers separate).drop (before.map Field.width).sum).take f.width
    let slot := f.slotType separate
    Go.Lists (b.scan separate) (b.pointers separate) ∧
    (scanned = e.columns.map (fun c =>
        arrays.pointer c.type (owner ++ "." ++ f.name ++ "." ++ c.name)) →
      (b.structFields separate).filter (·.name = f.name) = [⟨f.name, slot.text⟩] ∧
      (slot.text = f.type.core.text ↔ f.type.layers ≤ e.layersTaken) ∧
      ((∃ inner, slot = .null inner) ↔ e.layersTaken < f.type.layers)) := by
  intro b scanned slot
  have own : scanned = f.sites.map fun s =>
      arrays.pointer s.column.type (s.place owner separate).text :=
    take_drop_pointers owner asStruct byPointer arrays name before after f separate
  refine ⟨b.lists_scan separate, fun places => ?_⟩
  rw [own, ArraySupport.pointers_embedded_iff embed] at places
  refine ⟨?_, ?_, ?_⟩
  · rw [structFields_record_filter_name, find?_first_of_name first]
    rfl
  · rw [← Field.core_slotType embed places, GoType.text_eq_text_core_iff,
      Field.layers_slotType embed places, Nat.sub_eq_zero_iff_le]
  · rw [GoType.exists_null_iff, Field.layers_slotType embed places, Nat.sub_pos_iff_lt]

/-- A table that may be absent, with its type written inside `sql.Null`, in a run without scratch
variables. -/
theorem direct_slot_bare_iff_wrapped :
    let key : Column := { name := "ID", type := .scalar .int64 }
    let e : Embed := ⟨[key], [key], List.cons_ne_nil _ _, fun _ h => h⟩
    let title : Field := { name := "Title", type := .scalar .string }
    let f : Field := { name := "Author", type := .null (.record "Person"), embed := some e }
    let b : Binding := .ofRecord "i" ⟨"ListBooksRow", [title, f]⟩ ⟨false, "pq.Array"⟩
    (∀ g ∈ [title], g.name ≠ f.name) ∧ f.embed = some e ∧
    Go.Lists (b.scan false) (b.pointers false) ∧
    ((b.pointers false).drop 1).take 1 = ["&i.Author.ID"] ∧
    (b.structFields false).filter (·.name = f.name) = [⟨"Author", "Person"⟩] := by
  intro key e title f b
  have first : ∀ g ∈ [title], g.name ≠ f.name := by decide
  have direct : ((b.pointers false).drop 1).take 1 = ["&i.Author.ID"] := by decide
  obtain ⟨listed, told⟩ := @direct_slot_bare_iff "i" true false ⟨false, "pq.Array"⟩ [title] [] f e
    first rfl "ListBooksRow" false
  obtain ⟨slot, bare, -⟩ := told direct
  have itself : (f.slotType false).text = "Person" := bare.mpr (by decide)
  refine ⟨first, rfl, listed, direct, slot.trans ?_⟩
  rw [itself]

end Binding

/-- A table that is always present is accepted with a type inside `sql.Null`. Its columns are
scanned into fields that its slot has not. -/
theorem Statement.scanned_into_wrapped_slot :
    let q : QuerySpec :=
      { name := "ListBooks", command := ":many"
        text := "SELECT books.title, sqlc.embed(authors) FROM books JOIN authors"
        columns := [{ dbName := "title", type := "string" },
          { name := some "Author", type := "sql.Null[Author]"
            embed := some ⟨[{ dbName := "id", type := "int64" }], false, []⟩ }] }
    ∃ st, ofQuery {} q = .ok st ∧
      (st.result.destinations false).map Destination.text = ["&i.Title", "&i.Author.Id"] ∧
      (st.result.destinations true).map Destination.text = ["&i.Title", "&i.Author.Id"] ∧
      st.result.structFields false = [⟨"Title", "string"⟩, ⟨"Author", "sql.Null[Author]"⟩] ∧
      st.result.structFields true = [⟨"Title", "string"⟩, ⟨"Author", "sql.Null[Author]"⟩] ∧
      st.result.scan false = "&i.Title,&i.Author.Id" ∧
      st.result.scan true = "&i.Title,&i.Author.Id" := by
  intro q
  have shown : (ofQuery {} q).map (fun st => ((st.result.destinations false).map Destination.text,
      (st.result.destinations true).map Destination.text, st.result.structFields false,
      st.result.structFields true)) =
      .ok (["&i.Title", "&i.Author.Id"], ["&i.Title", "&i.Author.Id"],
        [⟨"Title", "string"⟩, ⟨"Author", "sql.Null[Author]"⟩],
        [⟨"Title", "string"⟩, ⟨"Author", "sql.Null[Author]"⟩]) := by decide +kernel
  have written : (ofQuery {} q).map (fun st => (st.result.scan false, st.result.scan true)) =
      .ok ("&i.Title,&i.Author.Id", "&i.Title,&i.Author.Id") := by decide +kernel
  obtain ⟨st, made, shown⟩ := map_eq_ok_iff.mp shown
  rw [made] at written
  simp only [Except.map, Except.ok.injEq, Prod.mk.injEq] at shown written
  obtain ⟨direct, apart, off, on⟩ := shown
  exact ⟨st, made, direct, apart, off, on, written⟩

end QueryBinding
