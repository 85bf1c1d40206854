import Mathlib.Data.List.Induction
import Mathlib.Data.List.Nodup
import QueryBinding.Proofs.Row.Slot
import QueryBinding.Record.Gathered

/-! # The first field of each name

The struct of a record has a field for each name. Three ways to find them give the same list: to
leave out later fields of a name, to ask of each place whether the name is new there, and to enter
all fields into a map that keeps what it has. Main statement: `uniqueFields_first`. -/

namespace QueryBinding

/-- Whether no field before the place of a field has its name. -/
def isNewAt (fields : List Field) (entry : Field × Nat) : Bool :=
  (fields.take entry.2).all (·.name ≠ entry.1.name)

/-- The fields that have no earlier field of their name, told by their places. -/
def newFields (fields : List Field) : List Field :=
  (fields.zipIdx.filter (isNewAt fields)).map (·.1)

variable {fields : List Field} {f : Field}

/-- A further field is kept exactly if its name is new. -/
theorem firstOfEachName_concat (fields : List Field) (f : Field) :
    firstOfEachName (fields ++ [f]) =
      if f.name ∈ fields.map (·.name) then firstOfEachName fields
      else firstOfEachName fields ++ [f] := by
  induction fields with
  | nil => rfl
  | cons g rest ih =>
      rw [List.cons_append, firstOfEachName, firstOfEachName, ih, List.map_cons]
      by_cases later : f.name ∈ rest.map (·.name)
      · rw [if_pos later, if_pos (List.mem_cons_of_mem _ later)]
      · rw [if_neg later, List.filter_append]
        by_cases own : f.name = g.name
        · rw [if_pos (own ▸ List.mem_cons_self), List.filter_cons_of_neg (by simpa using own),
            List.filter_nil, List.append_nil]
        · rw [if_neg (List.not_mem_cons_of_ne_of_not_mem own later),
            List.filter_cons_of_pos (by simpa using own), List.filter_nil, List.cons_append]

theorem mem_names_firstOfEachName {name : String} :
    name ∈ (firstOfEachName fields).map (·.name) ↔ name ∈ fields.map (·.name) := by
  induction fields using List.reverseRecOn with
  | nil => exact Iff.rfl
  | append_singleton fields f ih =>
      rw [firstOfEachName_concat, List.map_append, List.mem_append]
      split
      · next old =>
          rw [ih, List.map_singleton, List.mem_singleton]
          constructor
          · exact .inl
          · rintro (known | rfl)
            · exact known
            · exact old
      · rw [List.map_append, List.mem_append, ih]

theorem nodup_names_firstOfEachName (fields : List Field) :
    ((firstOfEachName fields).map (·.name)).Nodup := by
  induction fields using List.reverseRecOn with
  | nil => exact List.nodup_nil
  | append_singleton fields f ih =>
      rw [firstOfEachName_concat]
      split
      · exact ih
      · next new =>
          rw [List.map_append, List.map_singleton]
          refine ih.append (List.nodup_singleton _) ?_
          rw [List.disjoint_singleton, mem_names_firstOfEachName]
          exact new

theorem firstOfEachName_sublist (fields : List Field) :
    (firstOfEachName fields).Sublist fields := by
  induction fields with
  | nil => exact .slnil
  | cons f rest ih => exact (List.filter_sublist.trans ih).cons_cons f

/-- What is kept is the first of its name. -/
theorem find?_of_mem_firstOfEachName (kept : f ∈ firstOfEachName fields) :
    fields.find? (·.name = f.name) = some f := by
  have own : f ∈ (firstOfEachName fields).filter (·.name = f.name) :=
    List.mem_filter.mpr ⟨kept, decide_eq_true rfl⟩
  rwa [firstOfEachName_filter_name, Option.mem_toList] at own

theorem firstOfEachName_eq_self (distinct : (fields.map (·.name)).Nodup) :
    firstOfEachName fields = fields := by
  induction fields with
  | nil => rfl
  | cons f rest ih =>
      obtain ⟨new, distinct⟩ := List.nodup_cons.mp distinct
      rw [firstOfEachName, ih distinct, List.filter_eq_self.mpr]
      intro g later
      refine decide_eq_true fun same => new ?_
      exact List.mem_map.mpr ⟨g, later, same⟩

theorem isNewAt_concat_of_lt {entry : Field × Nat} (inside : entry.2 < fields.length) :
    isNewAt (fields ++ [f]) entry = isNewAt fields entry := by
  rw [isNewAt, List.take_append_of_le_length (Nat.le_of_lt inside), isNewAt]

theorem isNewAt_concat_length_iff :
    isNewAt (fields ++ [f]) (f, fields.length) = true ↔ f.name ∉ fields.map (·.name) := by
  rw [isNewAt, List.take_left, List.all_eq_true, List.mem_map]
  simp only [decide_eq_true_eq, not_exists, not_and, ne_eq]

theorem newFields_concat (fields : List Field) (f : Field) :
    newFields (fields ++ [f]) =
      if f.name ∈ fields.map (·.name) then newFields fields else newFields fields ++ [f] := by
  have before : fields.zipIdx.filter (isNewAt (fields ++ [f])) =
      fields.zipIdx.filter (isNewAt fields) :=
    List.filter_congr fun entry member => isNewAt_concat_of_lt (List.snd_lt_of_mem_zipIdx member)
  rw [newFields, List.zipIdx_append, List.filter_append, before, List.map_append, Nat.zero_add,
    List.zipIdx_singleton]
  by_cases old : f.name ∈ fields.map (·.name)
  · rw [if_pos old, List.filter_cons_of_neg fun new => isNewAt_concat_length_iff.mp new old]
    exact List.append_nil _
  · rw [if_neg old, List.filter_cons_of_pos (isNewAt_concat_length_iff.mpr old)]
    rfl

theorem newFields_eq (fields : List Field) : newFields fields = firstOfEachName fields := by
  induction fields using List.reverseRecOn with
  | nil => rfl
  | append_singleton fields f ih => rw [newFields_concat, firstOfEachName_concat, ih]

namespace NameMap

variable (m : NameMap Field)

theorem entries_foldl (fields : List Field) :
    m.entries (fields.foldl (fun t f => m.enter t f.name f) m.empty) =
      (firstOfEachName fields).map fun f => (f.name, f) := by
  induction fields using List.reverseRecOn with
  | nil => exact m.entries_empty
  | append_singleton fields f ih =>
      have names : (m.entries (fields.foldl (fun t f => m.enter t f.name f) m.empty)).map (·.1) =
          (firstOfEachName fields).map (·.name) := by
        rw [ih, List.map_map]
        rfl
      rw [List.foldl_append, List.foldl_cons, List.foldl_nil, firstOfEachName_concat]
      split
      · next old =>
          rw [m.entries_enter_of_mem, ih]
          rwa [names, mem_names_firstOfEachName]
      · next new =>
          rw [m.entries_enter_of_not_mem, ih, List.map_append, List.map_singleton]
          rwa [names, mem_names_firstOfEachName]

theorem gathered_eq (fields : List Field) : m.gathered fields = firstOfEachName fields := by
  rw [gathered, entries_foldl, List.map_map]
  exact List.map_id _

end NameMap

theorem Binding.names_structFields (b : Binding) (separate : Bool) :
    (b.structFields separate).map (·.name) = b.uniqueFields.map (·.name) := by
  rw [structFields, List.map_map]
  rfl

/-- The struct of a record has the fields of the record that have no earlier one of their name, and
so does every map that is given the fields under their names. Each name of the record is there once,
in the order of the record, with the field that has it first. Nothing is left out a second time. The
struct that is written for the record has these names, whether or not nullable embeds are scanned
apart. -/
theorem Record.uniqueFields_first (r : Record) :
    r.uniqueFields = newFields r.fields ∧
    (∀ m : NameMap Field, m.gathered r.fields = r.uniqueFields) ∧
    (r.uniqueFields.map (·.name)).Nodup ∧
    (∀ name, name ∈ r.uniqueFields.map (·.name) ↔ name ∈ r.fields.map (·.name)) ∧
    r.uniqueFields.Sublist r.fields ∧
    (∀ f ∈ r.uniqueFields, r.fields.find? (·.name = f.name) = some f) ∧
    uniqueFields ⟨r.name, r.uniqueFields⟩ = r.uniqueFields ∧
    ∀ owner asStruct byPointer arrays separate,
      let b : Binding := ⟨.record owner r, asStruct, byPointer, arrays⟩
      b.uniqueFields = r.uniqueFields ∧
        (b.structFields separate).map (·.name) = r.uniqueFields.map (·.name) := by
  have distinct := nodup_names_firstOfEachName r.fields
  refine ⟨(newFields_eq r.fields).symm, fun m => m.gathered_eq r.fields, distinct,
    fun name => mem_names_firstOfEachName, firstOfEachName_sublist r.fields,
    fun f kept => find?_of_mem_firstOfEachName kept, firstOfEachName_eq_self distinct, ?_⟩
  intro owner asStruct byPointer arrays separate b
  exact ⟨rfl, b.names_structFields separate⟩

/-- A name that comes three times, once with an embed: the first keeps its type, and the embed that
comes later is left out. -/
theorem Record.uniqueFields_first_repeated :
    let key : Column := { name := "ID", type := .scalar .int64 }
    let e : Embed := ⟨[key], [key], List.cons_ne_nil _ _, fun _ h => h⟩
    let a : Field := { name := "A", type := .scalar .int64 }
    let b : Field := { name := "B", type := .scalar .string }
    let later : Field := { name := "A", type := .record "A", embed := some e }
    let r : Record := ⟨"ListRow", [a, b, later, a, b]⟩
    a ∈ r.uniqueFields ∧ r.fields.find? (·.name = a.name) = some a ∧
      (NameMap.ofEntries Field).gathered r.fields = [a, b] ∧ newFields r.fields = [a, b] ∧
      (Binding.structFields ⟨.record "i" r, true, false, ⟨true, "pq.Array"⟩⟩ true).map (·.name) =
        ["A", "B"] := by
  intro key e a b later r
  obtain ⟨places, gathered, -, -, -, first, -, struct⟩ := r.uniqueFields_first
  have unique : r.uniqueFields = [a, b] := by decide
  have kept : a ∈ r.uniqueFields := by rw [unique]; exact List.mem_cons_self
  obtain ⟨-, names⟩ := struct "i" true false ⟨true, "pq.Array"⟩ true
  exact ⟨kept, first a kept, (gathered (NameMap.ofEntries Field)).trans unique,
    places.symm.trans unique, names.trans (by rw [unique]; rfl)⟩

end QueryBinding
