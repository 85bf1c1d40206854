import Mathlib.Algebra.GroupWithZero.Nat
import QueryBinding.Binding.Scan
import QueryBinding.Proofs.Go.Layout

/-! # The sites of a row

A row of a record has one site for each of its columns: the column, and the field that takes it. The
sites follow from the record alone. A scan lists one pointer for each site, in their order, and the
choice between struct and scratch variable is made site by site. Main statement: `scan_position`
compares both ways to scan one record. -/

namespace QueryBinding

/-- The columns that a field takes from a row. -/
def Field.columns (f : Field) : List Column :=
  match f.embed with
  | none => [f.toColumn]
  | some e => e.columns

@[simp] theorem Field.columns_of_plain {f : Field} (plain : f.embed = none) :
    f.columns = [f.toColumn] := by
  rw [columns, plain]

@[simp] theorem Field.columns_of_embed {f : Field} {e : Embed} (embed : f.embed = some e) :
    f.columns = e.columns := by
  rw [columns, embed]

@[simp] theorem Field.length_columns (f : Field) : f.columns.length = f.width := by
  cases embed : f.embed <;> simp [width, embed]

theorem Field.nullableEmbed?_eq_some_iff {f : Field} {e : Embed} :
    f.nullableEmbed? = some e ↔ f.embed = some e ∧ e.nullable = true := Option.filter_eq_some_iff

/-- A column of a row, with the field of the record that takes it. -/
structure Site where
  field : Field
  column : Column
deriving DecidableEq

namespace Site

variable {s : Site}

/-- Whether the column comes from a table that may be absent. -/
def absentable (s : Site) : Bool := s.field.nullableEmbed?.isSome

/-- The place of the column in the row's struct. -/
def held (owner : String) (s : Site) : Place :=
  if s.field.isEmbed then .embedded owner s.field.name s.column.name
  else .slot owner s.field.name

def scratch (owner : String) (s : Site) : Scratch := ⟨owner, s.field.name, s.column.name⟩

/-- Where the column is scanned to. -/
def place (owner : String) (separate : Bool) (s : Site) : Place :=
  if s.absentable && separate then .scratch (s.scratch owner) else s.held owner

theorem absentable_of_plain (h : s.field.embed = none) : s.absentable = false := by
  simp [absentable, Field.nullableEmbed?, h]

theorem absentable_of_embed {e : Embed} (h : s.field.embed = some e) :
    s.absentable = e.nullable := by
  cases nullable : e.nullable <;> simp [absentable, Field.nullableEmbed?, h, nullable]

theorem held_of_plain (h : s.field.embed = none) (owner : String) :
    s.held owner = .slot owner s.field.name := by
  simp [held, Field.isEmbed, h]

theorem held_of_embed {e : Embed} (h : s.field.embed = some e) (owner : String) :
    s.held owner = .embedded owner s.field.name s.column.name := by
  simp [held, Field.isEmbed, h]

@[simp] theorem held_of_absentable (h : s.absentable = true) (owner : String) :
    s.held owner = .embedded owner s.field.name s.column.name := by
  obtain ⟨e, he⟩ := Option.isSome_iff_exists.mp h
  exact held_of_embed (Field.nullableEmbed?_eq_some_iff.mp he).1 owner

theorem text_held (owner : String) (s : Site) : (s.held owner).text =
    if s.field.isEmbed then owner ++ "." ++ s.field.name ++ "." ++ s.column.name
    else owner ++ "." ++ s.field.name := by
  rw [held]
  split <;> rfl

@[simp] theorem place_false (owner : String) (s : Site) : s.place owner false = s.held owner := by
  simp [place]

@[simp] theorem place_of_not_absentable (h : s.absentable = false) (owner : String)
    (separate : Bool) : s.place owner separate = s.held owner := by
  simp [place, h]

@[simp] theorem place_true_of_absentable (h : s.absentable = true) (owner : String) :
    s.place owner true = .scratch (s.scratch owner) := by
  simp [place, h]

@[simp] theorem place_of_plain {f : Field} (h : f.embed = none) (owner : String) (separate : Bool)
    (c : Column) : (mk f c).place owner separate = .slot owner f.name := by
  have plain : (mk f c).field.embed = none := h
  simp [place, absentable_of_plain plain, held_of_plain plain]

@[simp] theorem place_of_embed {f : Field} {e : Embed} (h : f.embed = some e) (owner : String)
    (separate : Bool) (c : Column) : (mk f c).place owner separate =
      if e.nullable && separate then .scratch ⟨owner, f.name, c.name⟩
      else .embedded owner f.name c.name := by
  have embedded : (mk f c).field.embed = some e := h
  rw [place, absentable_of_embed embedded, held_of_embed embedded, scratch]

theorem text_place_of_absentable (h : s.absentable = true) (owner : String) (separate : Bool) :
    (s.place owner separate).text =
      if separate then owner ++ "Embed" ++ s.field.name ++ s.column.name
      else owner ++ "." ++ s.field.name ++ "." ++ s.column.name := by
  cases separate <;> simp [h, scratch]

@[simp] theorem name_scratch (owner : String) (s : Site) :
    (s.scratch owner).name = owner ++ "Embed" ++ s.field.name ++ s.column.name := by
  simp [scratch]

theorem exists_text_held (owner : String) (s : Site) :
    ∃ path, (s.held owner).text = owner ++ ("." ++ path) := by
  rw [text_held]
  split
  · exact ⟨s.field.name ++ "." ++ s.column.name, by simp only [String.append_assoc]⟩
  · exact ⟨s.field.name, String.append_assoc⟩

/-- No place in the struct is spelled as a scratch variable: a period follows the owner's name. -/
theorem text_held_ne_name_scratch {owner : String} {s t : Site} :
    (s.held owner).text ≠ (t.scratch owner).name := by
  intro same
  obtain ⟨path, inside⟩ := s.exists_text_held owner
  rw [inside, name_scratch, String.append_assoc, String.append_assoc,
    String.append_right_inj] at same
  have heads := congrArg (·.toList.head?) same
  simp at heads

end Site

/-- The sites of one field. -/
def Field.sites (f : Field) : List Site := f.columns.map fun c => ⟨f, c⟩

theorem Field.sites_of_embed {f : Field} {e : Embed} (embed : f.embed = some e) :
    f.sites = e.columns.map (Site.mk f) := by
  rw [sites, columns_of_embed embed]

/-- The sites of a row, in the order of its columns. -/
def Record.sites (r : Record) : List Site := r.fields.flatMap Field.sites

@[simp] theorem Field.length_sites (f : Field) : f.sites.length = f.width := by
  simp [sites]

@[simp] theorem Record.length_sites (r : Record) :
    r.sites.length = (r.fields.map Field.width).sum := by
  simp [sites, List.length_flatMap]

theorem Field.mem_sites {f : Field} {s : Site} (h : s ∈ f.sites) :
    s.field = f ∧ s.column ∈ f.columns := by
  obtain ⟨c, member, rfl⟩ := List.mem_map.mp h
  exact ⟨rfl, member⟩

@[simp] theorem Field.filter_sites_of_plain {f : Field} (plain : f.nullableEmbed? = none) :
    f.sites.filter Site.absentable = [] := by
  rw [List.filter_eq_nil_iff]
  intro s member
  simp [Site.absentable, (Field.mem_sites member).1, plain]

@[simp] theorem Field.filter_sites_of_nullable {f : Field} {e : Embed}
    (nullable : f.nullableEmbed? = some e) :
    f.sites.filter Site.absentable = e.columns.map (Site.mk f) := by
  have all : f.sites.filter Site.absentable = f.sites := by
    rw [List.filter_eq_self]
    intro s member
    simp [Site.absentable, (Field.mem_sites member).1, nullable]
  rw [all, sites_of_embed (nullableEmbed?_eq_some_iff.mp nullable).1]

theorem Record.mem_sites {r : Record} {s : Site} (h : s ∈ r.sites) :
    s.field ∈ r.fields ∧ s.column ∈ s.field.columns := by
  obtain ⟨f, inFields, atField⟩ := List.mem_flatMap.mp h
  obtain ⟨rfl, inColumns⟩ := Field.mem_sites atField
  exact ⟨inFields, inColumns⟩

theorem Record.map_sites {α : Type} (r : Record) (g : Column → α) :
    r.sites.map (fun s => g s.column) = (r.fields.flatMap Field.columns).map g := by
  simp [sites, Field.sites, List.map_flatMap, Function.comp_def]

namespace ArraySupport

variable (arrays : ArraySupport) (owner : String) (separate : Bool) (f : Field)

/-- The address of a variable as a scan hands it on, through the adapter for a list that the driver
does not know. -/
def pointer (type : GoType) (path : String) : String :=
  if type.isList && arrays.needsAdapter then arrays.adapter ++ "(&" ++ path ++ ")" else "&" ++ path

@[simp] theorem text_destination (column : Column) (place : Place) :
    (arrays.destination column place).text = arrays.pointer column.type place.text := by
  have opened : arrays.adapter ++ "(&" = arrays.adapter ++ "(" ++ "&" := by
    rw [String.append_assoc]
    rfl
  rw [destination, Destination.text, adapterFor, pointer, Bool.not_false, Bool.and_true]
  split
  · rw [adapted_some, opened, ← String.append_assoc]
  · rw [adapted_none]

theorem pointer_right_inj {type : GoType} {p q : String} :
    arrays.pointer type p = arrays.pointer type q ↔ p = q := by
  rw [pointer, pointer]
  split
  · rw [String.append_left_inj, String.append_right_inj]
  · rw [String.append_right_inj]

theorem fieldDestinations_eq :
    arrays.fieldDestinations owner separate f =
      f.sites.map fun s => arrays.destination s.column (s.place owner separate) := by
  cases embed : f.embed with
  | none => simp [fieldDestinations, Field.sites, embed]
  | some e =>
      cases apart : e.nullable && separate <;>
        simp [fieldDestinations, Field.sites, embed, apart, Function.comp_def]

end ArraySupport

namespace Binding

/-- The fields of the bound row; none without a record. -/
def rowFields (b : Binding) : List Field :=
  match b.record? with
  | some record => record.fields
  | none => []

/-- The sites of a bound row that go through scratch variables if any do. -/
def absentSites (b : Binding) : List Site :=
  (b.rowFields.flatMap Field.sites).filter Site.absentable

section Record

variable (owner : String) (r : Record) (asStruct byPointer : Bool) (arrays : ArraySupport)

@[simp] theorem rowFields_record :
    rowFields ⟨.record owner r, asStruct, byPointer, arrays⟩ = r.fields := rfl

@[simp] theorem absentSites_record :
    absentSites ⟨.record owner r, asStruct, byPointer, arrays⟩ = r.sites.filter Site.absentable :=
  rfl

theorem destinations_eq_sites (separate : Bool) :
    destinations ⟨.record owner r, asStruct, byPointer, arrays⟩ separate =
      r.sites.map fun s => arrays.destination s.column (s.place owner separate) := by
  rw [destinations_record, Record.sites, List.map_flatMap]
  congr 1
  funext f
  exact arrays.fieldDestinations_eq owner separate f

end Record

/-- The columns that a scan takes from a row, and the variables that it takes them to: the row's own
variable `v`, a field `v.F` of it, a field `v.F.E` of an embed, or a scratch variable. -/
inductive Reaches (b : Binding) : Bool → Column → String → Prop
  | var {separate : Bool} {f : Field} : b.content = .scalar f →
      b.Reaches separate f.toColumn b.varName
  | slot {separate : Bool} {f : Field} : f ∈ b.rowFields → f.embed = none →
      b.Reaches separate f.toColumn (b.varName ++ "." ++ f.name)
  | embedded {separate : Bool} {f : Field} {e : Embed} {c : Column} : f ∈ b.rowFields →
      f.embed = some e → c ∈ e.columns → (e.nullable && separate) = false →
      b.Reaches separate c (b.varName ++ "." ++ f.name ++ "." ++ c.name)
  | scratch {f : Field} {e : Embed} {c : Column} : f ∈ b.rowFields → f.embed = some e →
      c ∈ e.columns → e.nullable = true →
      b.Reaches true c (b.varName ++ "Embed" ++ f.name ++ c.name)

theorem reaches_of_mem_sites {r : Record} {s : Site} (member : s ∈ r.sites) (owner : String)
    (asStruct byPointer : Bool) (arrays : ArraySupport) (separate : Bool) :
    Reaches ⟨.record owner r, asStruct, byPointer, arrays⟩ separate s.column
      (s.place owner separate).text := by
  obtain ⟨f, c⟩ := s
  obtain ⟨inFields, inColumns⟩ := Record.mem_sites member
  cases embed : f.embed with
  | none =>
      rw [Field.columns_of_plain embed] at inColumns
      rw [Site.place_of_plain embed, List.mem_singleton.mp inColumns]
      exact .slot inFields embed
  | some e =>
      rw [Field.columns_of_embed embed] at inColumns
      rw [Site.place_of_embed embed]
      cases apart : e.nullable && separate with
      | false => exact .embedded inFields embed inColumns apart
      | true =>
          obtain ⟨nullable, rfl⟩ := Bool.and_eq_true_iff.mp apart
          exact .scratch inFields embed inColumns nullable

theorem reaches_of_mem_destinations {b : Binding} {separate : Bool} {d : Destination}
    (member : d ∈ b.destinations separate) : b.Reaches separate d.column d.place.text := by
  obtain ⟨content, asStruct, byPointer, arrays⟩ := b
  cases content with
  | empty => cases member
  | scalar field =>
      cases List.mem_singleton.mp member
      exact .var rfl
  | record owner r =>
      rw [destinations_eq_sites] at member
      obtain ⟨s, inRow, rfl⟩ := List.mem_map.mp member
      exact reaches_of_mem_sites inRow owner asStruct byPointer arrays separate

theorem text_of_mem_destinations {b : Binding} {separate : Bool} {d : Destination}
    (member : d ∈ b.destinations separate) :
    d.text = b.arrays.pointer d.column.type d.place.text := by
  obtain ⟨content, asStruct, byPointer, arrays⟩ := b
  cases content with
  | empty => cases member
  | scalar field =>
      cases List.mem_singleton.mp member
      exact arrays.text_destination field.toColumn (.var field.name)
  | record owner r =>
      rw [destinations_eq_sites] at member
      obtain ⟨s, -, rfl⟩ := List.mem_map.mp member
      exact arrays.text_destination s.column (s.place owner separate)

/-- The pointers to the variables that a scan takes the columns of a row to. -/
def pointers (b : Binding) (separate : Bool) : List String :=
  (b.destinations separate).map fun d => b.arrays.pointer d.column.type d.place.text

theorem pointers_record (owner : String) (r : Record) (asStruct byPointer : Bool)
    (arrays : ArraySupport) (separate : Bool) :
    pointers ⟨.record owner r, asStruct, byPointer, arrays⟩ separate =
      r.sites.map fun s => arrays.pointer s.column.type (s.place owner separate).text := by
  rw [pointers, destinations_eq_sites, List.map_map]
  rfl

theorem reaches_of_mem_pointers {b : Binding} {separate : Bool} {entry : String}
    (member : entry ∈ b.pointers separate) :
    ∃ c path, b.Reaches separate c path ∧ entry = b.arrays.pointer c.type path := by
  obtain ⟨d, inRow, rfl⟩ := List.mem_map.mp member
  exact ⟨d.column, d.place.text, reaches_of_mem_destinations inRow, rfl⟩

theorem lists_scan (b : Binding) (separate : Bool) :
    Go.Lists (b.scan separate) (b.pointers separate) := by
  rw [scan, List.map_congr_left fun d member => text_of_mem_destinations member]
  exact Go.lists_callLayout _

/-- A scan lists the columns of a field side by side, behind those of all fields before it. -/
theorem lists_scan_append_cons (owner : String) (asStruct byPointer : Bool) (arrays : ArraySupport)
    (name : String) (before after : List Field) (f : Field) (separate : Bool) :
    ∃ ahead behind : List String,
      Go.Lists
        (scan ⟨.record owner ⟨name, before ++ f :: after⟩, asStruct, byPointer, arrays⟩ separate)
        (ahead ++ (f.sites.map fun s =>
          arrays.pointer s.column.type (s.place owner separate).text) ++ behind) ∧
      ahead.length = (before.map Field.width).sum := by
  have listed :=
    lists_scan ⟨.record owner ⟨name, before ++ f :: after⟩, asStruct, byPointer, arrays⟩ separate
  rw [pointers_record, Record.sites, List.flatMap_append, List.flatMap_cons, ← List.append_assoc,
    List.map_append, List.map_append] at listed
  refine ⟨_, _, listed, ?_⟩
  simp [List.length_flatMap]

/-- Both scans of a record list one pointer for each column of a row, in one order and through the
adapter for the same columns. They differ in the columns of nullable embeds only, where a scratch
variable stands for the place in the struct. -/
theorem scan_position (owner : String) (r : Record) (asStruct byPointer : Bool)
    (arrays : ArraySupport) :
    let b : Binding := ⟨.record owner r, asStruct, byPointer, arrays⟩
    let count := (r.fields.map Field.width).sum
    ∃ direct apart : List String,
      Go.Lists (b.scan false) direct ∧ Go.Lists (b.scan true) apart ∧
      direct.length = count ∧ apart.length = count ∧
      ∀ k < count, ∃ site path,
        r.sites[k]? = some site ∧
        direct[k]? = some (arrays.pointer site.column.type path) ∧
        if site.absentable then
          path = owner ++ "." ++ site.field.name ++ "." ++ site.column.name ∧
          apart[k]? = some (arrays.pointer site.column.type
            (owner ++ "Embed" ++ site.field.name ++ site.column.name))
        else
          path = (if site.field.isEmbed then
            owner ++ "." ++ site.field.name ++ "." ++ site.column.name
            else owner ++ "." ++ site.field.name) ∧
          apart[k]? = direct[k]? := by
  intro b count
  refine ⟨b.pointers false, b.pointers true, b.lists_scan false, b.lists_scan true,
    by simp [b, count, pointers_record], by simp [b, count, pointers_record], ?_⟩
  intro k hk
  have inside : k < r.sites.length := r.length_sites ▸ hk
  have at_k : r.sites[k]? = some r.sites[k] := List.getElem?_eq_getElem inside
  simp only [b, pointers_record, List.getElem?_map, at_k, Option.map_some, Site.place_false]
  refine ⟨r.sites[k], (r.sites[k].held owner).text, rfl, rfl, ?_⟩
  cases absentable : r.sites[k].absentable with
  | true => simp [absentable]
  | false => simp [absentable, Site.text_held]

end Binding

end QueryBinding
