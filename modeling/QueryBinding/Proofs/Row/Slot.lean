import QueryBinding.Binding.Struct
import QueryBinding.Proofs.Row.Blocks

/-! # The slot of a nullable embed

The struct of a row has one slot for a field name, that of the first field so named. For a nullable
embed the slot's type, the struct that is put into it and the places its columns are scanned to
follow from one type and one setting. Main statement: `slot_agreement`. -/

namespace QueryBinding

theorem firstOfEachName_filter_name (fields : List Field) (name : String) :
    (firstOfEachName fields).filter (·.name = name) = (fields.find? (·.name = name)).toList := by
  induction fields with
  | nil => rfl
  | cons f rest ih =>
      rw [firstOfEachName]
      by_cases own : f.name = name
      · have others : ((firstOfEachName rest).filter (·.name ≠ f.name)).filter (·.name = name) =
            [] := by
          rw [List.filter_filter, List.filter_eq_nil_iff]
          intro g _ both
          simp only [own, Bool.and_eq_true, decide_eq_true_eq] at both
          exact both.2 both.1
        rw [List.filter_cons_of_pos (by simpa using own), others,
          List.find?_cons_of_pos (by simpa using own)]
        rfl
      · have others : ((firstOfEachName rest).filter (·.name ≠ f.name)).filter (·.name = name) =
            (firstOfEachName rest).filter (·.name = name) := by
          rw [List.filter_filter]
          apply List.filter_congr
          intro g _
          by_cases same : g.name = name
          · simp only [same, ne_eq, Ne.symm own, not_false_eq_true, decide_true, Bool.and_true]
          · simp only [same, decide_false, Bool.false_and]
        rw [List.filter_cons_of_neg (by simpa using own), others,
          List.find?_cons_of_neg (by simpa using own), ih]

theorem find?_first_of_name {before after : List Field} {f : Field}
    (first : ∀ g ∈ before, g.name ≠ f.name) :
    (before ++ f :: after).find? (·.name = f.name) = some f := by
  have absent : before.find? (·.name = f.name) = none := by
    rw [List.find?_eq_none]
    intro g member same
    exact first g member (by simpa using same)
  rw [List.find?_append, absent, List.find?_cons_of_pos (by simp)]
  rfl

theorem Field.slotType_of_nullableEmbed {f : Field} {e : Embed} (h : f.nullableEmbed? = some e)
    (separate : Bool) : (f.slotType separate).text =
      if separate then "sql.Null[" ++ f.type.stripNull.text ++ "]" else f.type.stripNull.text := by
  rw [slotType, h]
  cases separate with
  | false => rfl
  | true => rfl

theorem ArraySupport.fieldDestinations_of_nullableEmbed {f : Field} {e : Embed}
    (h : f.nullableEmbed? = some e) (arrays : ArraySupport) (owner : String) (separate : Bool) :
    arrays.fieldDestinations owner separate f = e.columns.map fun c => arrays.destination c
      (if separate then .scratch ⟨owner, f.name, c.name⟩ else .embedded owner f.name c.name) := by
  obtain ⟨embed, nullable⟩ := Field.nullableEmbed?_eq_some_iff.mp h
  rw [fieldDestinations_eq, Field.sites_of_embed embed, List.map_map]
  simp [embed, nullable, Function.comp_def]

namespace Binding

variable (owner : String) (asStruct byPointer : Bool) (arrays : ArraySupport)

theorem structFields_record_filter_name (r : Record) (separate : Bool) (name : String) :
    (structFields ⟨.record owner r, asStruct, byPointer, arrays⟩ separate).filter
        (·.name = name) =
      (r.fields.find? (·.name = name)).toList.map
        fun f => ⟨f.name, (f.slotType separate).text⟩ := by
  rw [← firstOfEachName_filter_name, structFields, List.filter_map]
  rfl

/-- The struct of a record, the lines that fill a slot and the scan agree on a nullable embed that
is the first field of its name. Its slot has the type of the literal that its block assigns, inside
`sql.Null` exactly if its columns go through scratch variables. No block before it fills its slot;
those behind it belong to later fields. -/
theorem slot_agreement {before after : List Field} {f : Field} {e : Embed}
    (first : ∀ g ∈ before, g.name ≠ f.name) (nullable : f.nullableEmbed? = some e)
    (name : String) (separate : Bool) (rule : PresenceRule) :
    let b : Binding := ⟨.record owner ⟨name, before ++ f :: after⟩, asStruct, byPointer, arrays⟩
    let slot := owner ++ "." ++ f.name
    let struct := f.type.stripNull.text
    (b.structFields separate).filter (·.name = f.name) =
      [⟨f.name, if separate then "sql.Null[" ++ struct ++ "]" else struct⟩] ∧
    (∃ earlier block later : List String,
      b.presenceLines rule = earlier ++ block ++ later ∧
      block[2]? = some ("    " ++ slot ++ ".V = " ++ struct ++ "\x7b") ∧
      Fills owner rule [f] block (e.columns.map (Site.mk f)) ∧
      (∃ sites, Fills owner rule before earlier sites) ∧
      (∀ g ∈ before, owner ++ "." ++ g.name ≠ slot) ∧
      ∃ sites, Fills owner rule after later sites) ∧
    ∃ ahead behind : List String,
      Go.Lists (b.scan separate) (ahead ++ (e.columns.map fun c => arrays.pointer c.type
        (if separate then owner ++ "Embed" ++ f.name ++ c.name
          else slot ++ "." ++ c.name)) ++ behind) ∧
      ahead.length = (before.map Field.width).sum := by
  intro b slot struct
  refine ⟨?_, ⟨before.flatMap (Field.presenceBlock owner rule), f.presenceBlock owner rule,
    after.flatMap (Field.presenceBlock owner rule), ?_, ?_, ?_,
    ⟨_, fills_presenceBlocks owner rule before⟩, ?_, ⟨_, fills_presenceBlocks owner rule after⟩⟩,
    ?_⟩
  · rw [structFields_record_filter_name, find?_first_of_name first, Option.toList_some,
      List.map_singleton, Field.slotType_of_nullableEmbed nullable]
  · rw [presenceLines_record, List.flatMap_append, List.flatMap_cons, List.append_assoc]
  · exact (Field.presenceBlock_of_nullableEmbed nullable).assigned
  · simpa [nullable] using fills_presenceBlocks owner rule [f]
  · intro g member same
    exact first g member ((String.append_right_inj _).mp same)
  · obtain ⟨ahead, behind, listed, length⟩ :=
      lists_scan_append_cons owner asStruct byPointer arrays name before after f separate
    have own : f.sites = e.columns.map (Site.mk f) :=
      Field.sites_of_embed (Field.nullableEmbed?_eq_some_iff.mp nullable).1
    have absentable (c : Column) : (Site.mk f c).absentable = true := by
      simp [Site.absentable, nullable]
    refine ⟨ahead, behind, ?_, length⟩
    simpa only [own, List.map_map, Function.comp_def,
      Site.text_place_of_absentable (absentable _)] using listed

/-- A slot whose type was written inside `sql.Null` twice, under a name that a later embed of
another type repeats. -/
theorem slot_agreement_repeated_name :
    let key : Column := { name := "ID", type := .scalar .int64 }
    let e : Embed := ⟨[key], [key], List.cons_ne_nil _ _, fun _ h => h⟩
    let plain : Field := { name := "Title", type := .scalar .string }
    let f : Field := { name := "Author", type := .null (.null (.record "Person")), embed := some e }
    let again : Field := { name := "Author", type := .record "Editor", embed := some e }
    let b : Binding := .ofRecord "i" ⟨"Row", [plain, f, again]⟩ ⟨false, "pq.Array"⟩
    (∀ g ∈ [plain], g.name ≠ f.name) ∧ f.nullableEmbed? = some e ∧
    (b.structFields true).filter (·.name = "Author") =
      [⟨"Author", "sql.Null[" ++ (GoType.null (.record "Person")).text ++ "]"⟩] ∧
    (∃ earlier block later : List String, b.presenceLines .anyKey = earlier ++ block ++ later ∧
      block[2]? = some "    i.Author.V = sql.Null[Person]\x7b") ∧
    ∃ title behind, Go.Lists (b.scan true) (title :: "&iEmbedAuthorID" :: behind) := by
  intro key e plain f again b
  have first : ∀ g ∈ [plain], g.name ≠ f.name := by decide
  have nullable : f.nullableEmbed? = some e := rfl
  obtain ⟨slot, ⟨earlier, block, later, lines, literal, -⟩, ahead, behind, listed, length⟩ :=
    @slot_agreement "i" true false ⟨false, "pq.Array"⟩ [plain] [again] f e first nullable "Row" true
      .anyKey
  have literal : block[2]? = some "    i.Author.V = sql.Null[Person]\x7b" :=
    literal.trans (by decide)
  obtain ⟨title, rfl⟩ := List.length_eq_one_iff.mp length
  exact ⟨first, nullable, slot, ⟨earlier, block, later, lines, literal⟩, title, behind, listed⟩

end Binding

end QueryBinding
