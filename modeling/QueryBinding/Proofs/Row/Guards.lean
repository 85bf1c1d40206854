import QueryBinding.Proofs.Query.Checks
import QueryBinding.Proofs.Row.Scratch

/-! # What a guard tests

The block of a nullable embed is guarded by tests of its key: each reads the field `Valid` of a
scratch variable. The tests are written from the key alone, and the variables are declared from the
types of the columns, which need not have such a field. Main statement: `guard_tests_valid_iff`,
that all tests of a guard make sense unless the key has a slice in it. -/

namespace QueryBinding

/-- Slices of any kind: lists and bytes. -/
def GoType.isSlice (t : GoType) : Bool := t.isList || t.isBytes

/-- Whether a variable of the type can have a field `Valid`. The wrappers of `sql` have one, and
types that are known by name only may. -/
def GoType.canHaveValid : GoType → Bool
  | .wrapper _ | .null _ | .record _ | .named _ => true
  | .scalar _ | .bytes | .list _ => false

theorem GoType.canHaveValid_toNullable (t : GoType) : t.toNullable.canHaveValid = !t.isSlice := by
  cases t <;> rfl

/-- A column is declared with a type that can have the field, or with the slice that it is. -/
theorem GoType.canHaveValid_or_slice (t : GoType) :
    t.toNullable.canHaveValid = true ∨ ∃ item, t.toNullable.text = "[]" ++ item := by
  cases t with
  | bytes => exact .inr ⟨"byte", rfl⟩
  | list item => exact .inr ⟨item.text, rfl⟩
  | scalar s => exact .inl rfl
  | wrapper w => exact .inl rfl
  | null inner => exact .inl rfl
  | record name => exact .inl rfl
  | named text => exact .inl rfl

/-- The declarations of the variables that the guard of a nullable embed tests. -/
def Field.tested (owner : String) (f : Field) (e : Embed) : List Declaration :=
  e.keys.map fun k => ⟨⟨owner, f.name, k.name⟩, k.type.toNullable⟩

theorem Field.tested_subset (owner : String) (f : Field) (e : Embed) :
    f.tested owner e ⊆ f.declarations owner e := by
  intro d tested
  obtain ⟨k, inKeys, rfl⟩ := List.mem_map.mp tested
  exact List.mem_map_of_mem (e.keys_mem k inKeys)

theorem Field.guardOver_tested (owner : String) (f : Field) (e : Embed) (rule : PresenceRule) :
    rule.guardOver (e.keys.map (f.scratchName owner)) =
      rule.operator.intercalate ((f.tested owner e).map fun d => d.scratch.name ++ ".Valid") := by
  simp only [PresenceRule.guardOver, tested, List.map_map, Function.comp_def, scratchName,
    Scratch.name_mk]

theorem Field.canHaveValid_tested_iff (owner : String) (f : Field) (e : Embed) :
    (∀ d ∈ f.tested owner e, d.type.canHaveValid = true) ↔
      ∀ k ∈ e.keys, k.type.isSlice = false := by
  simp only [tested, List.forall_mem_map, GoType.canHaveValid_toNullable, Bool.not_eq_true']

theorem Record.mem_nullableEmbeds {r : Record} {f : Field} {e : Embed} (member : f ∈ r.fields)
    (nullable : f.nullableEmbed? = some e) : (f, e) ∈ r.nullableEmbeds := by
  apply List.mem_filterMap.mpr
  refine ⟨f, member, ?_⟩
  rw [nullable]
  rfl

namespace Binding

/-- In every record, the lines after a scan have a block for a nullable embed, whose guard tests a
declared variable for each column of the key. A variable is declared with a type that can have the
field that is tested, or as a slice; all of them can have it if and only if no column of the key is
a slice. -/
theorem guard_tests_valid_iff {r : Record} {f : Field} {e : Embed} (member : f ∈ r.fields)
    (nullable : f.nullableEmbed? = some e) (owner : String) (asStruct byPointer : Bool)
    (arrays : ArraySupport) (rule : PresenceRule) :
    let b : Binding := ⟨.record owner r, asStruct, byPointer, arrays⟩
    (∃ earlier block later : List String,
      b.presenceLines rule = earlier ++ block ++ later ∧
      f.PresenceBlock owner rule e block ∧
      block[0]? = some ("if " ++ rule.operator.intercalate
        ((f.tested owner e).map fun d => d.scratch.name ++ ".Valid") ++ " \x7b")) ∧
    (b.scratchLines = b.declarations.map fun d =>
      "var " ++ d.scratch.name ++ " " ++ d.type.text) ∧
    f.tested owner e ⊆ b.declarations ∧
    (∀ d ∈ f.tested owner e,
      d.type.canHaveValid = true ∨ ∃ item, d.type.text = "[]" ++ item) ∧
    ((∀ d ∈ f.tested owner e, d.type.canHaveValid = true) ↔
      ∀ k ∈ e.keys, k.type.isSlice = false) := by
  intro b
  refine ⟨?_, rfl, ?_, ?_, f.canHaveValid_tested_iff owner e⟩
  · obtain ⟨before, after, split⟩ := List.append_of_mem member
    refine ⟨before.flatMap (Field.presenceBlock owner rule), f.presenceBlock owner rule,
      after.flatMap (Field.presenceBlock owner rule), ?_,
      Field.presenceBlock_of_nullableEmbed nullable, ?_⟩
    · rw [presenceLines_record, split, List.flatMap_append, List.flatMap_cons, List.append_assoc]
    · rw [Field.presenceBlock_eq nullable, f.guardOver_tested owner e]
      rfl
  · intro d tested
    apply List.mem_flatMap.mpr
    exact ⟨(f, e), Record.mem_nullableEmbeds member nullable, f.tested_subset owner e tested⟩
  · intro d tested
    obtain ⟨k, -, rfl⟩ := List.mem_map.mp tested
    exact k.type.canHaveValid_or_slice

/-- A key of a number and an identifier, beside a column of bytes that is not in the key. -/
theorem guard_tests_valid_iff_composite :
    let org : Column := { name := "OrgID", type := .scalar .int32 }
    let code : Column := { name := "Code", type := .named "uuid.UUID" }
    let photo : Column := { name := "Photo", type := .bytes }
    let e : Embed := ⟨[org, photo, code], [org, code], List.cons_ne_nil _ _, by simp⟩
    let f : Field := { name := "Author", type := .record "Author", embed := some e }
    let b : Binding := .ofRecord "i" ⟨"ListBooksRow", [f]⟩ ⟨false, "pq.Array"⟩
    f ∈ [f] ∧ f.nullableEmbed? = some e ∧
    (∃ earlier block later : List String,
      b.presenceLines .allKeys = earlier ++ block ++ later ∧
      block[0]? = some "if iEmbedAuthorOrgID.Valid && iEmbedAuthorCode.Valid \x7b") ∧
    ∀ d ∈ f.tested "i" e, d ∈ b.declarations ∧ d.type.canHaveValid = true := by
  intro org code photo e f b
  have member : f ∈ [f] := List.mem_singleton.mpr rfl
  have nullable : f.nullableEmbed? = some e := rfl
  obtain ⟨⟨earlier, block, later, lines, -, guard⟩, -, declared, -, sound⟩ :=
    @guard_tests_valid_iff ⟨"ListBooksRow", [f]⟩ f e member nullable "i" true false
      ⟨false, "pq.Array"⟩ .allKeys
  have plain : ∀ k ∈ e.keys, k.type.isSlice = false := by decide
  refine ⟨member, nullable, ⟨earlier, block, later, lines, guard.trans (by decide)⟩, ?_⟩
  intro d tested
  exact ⟨declared tested, sound.mpr plain d tested⟩

end Binding

/-- A table whose key is written as bytes is accepted, and its guard tests a slice. -/
theorem Statement.guard_tests_slice :
    let q : QuerySpec :=
      { name := "ListBooks", command := ":many"
        text := "SELECT books.title, sqlc.embed(authors) FROM books LEFT JOIN authors"
        columns := [{ dbName := "title", type := "string" },
          { name := some "Author", type := "Author"
            embed := some ⟨[{ dbName := "id", type := "[]byte" },
              { dbName := "name", type := "string" }], true, ["Id"]⟩ }] }
    ∃ st, ofQuery {} q = .ok st ∧
      st.result.scratchLines = ["var iEmbedAuthorId []byte", "var iEmbedAuthorName sql.NullString"] ∧
      (st.result.presenceLines .anyKey)[0]? = some "if iEmbedAuthorId.Valid \x7b" ∧
      st.result.declarations.map (·.type.canHaveValid) = [false, true] := by
  intro q
  have shown : (ofQuery {} q).map (fun st => (st.result.scratchLines,
      (st.result.presenceLines .anyKey)[0]?, st.result.declarations.map (·.type.canHaveValid))) =
      .ok (["var iEmbedAuthorId []byte", "var iEmbedAuthorName sql.NullString"],
        some "if iEmbedAuthorId.Valid \x7b", [false, true]) := by decide +kernel
  obtain ⟨st, made, shown⟩ := map_eq_ok_iff.mp shown
  simp only [Prod.mk.injEq] at shown
  obtain ⟨declared, guard, types⟩ := shown
  exact ⟨st, made, declared, guard, types⟩

end QueryBinding
