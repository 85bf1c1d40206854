import Mathlib.Data.List.Nodup
import QueryBinding.Proofs.Query.Parameters
import QueryBinding.Proofs.Text.FirstWord

/-! # Parameters passed one by one

A record that is no struct is passed field by field, and a single parameter stands for itself. Both
ways lower the first word of a field's name and escape what comes out; one does so when a statement
is made, the other whenever it is rendered. Main statements: `alone_renders_as_listed`, that both
ways agree on a single parameter, and `arguments_distinct_iff`, which names of fields keep the
arguments of a method apart. -/

namespace QueryBinding

/-- The limit on parameters lets a single one stand for itself unless none may. -/
theorem QuerySpec.paramsBinding_single_eq_iff (q : QuerySpec) (s : Settings) (arrays : ArraySupport)
    (f : Field) :
    q.paramsBinding s arrays [f] = .ofField f.asVariable arrays ↔ s.parameterLimit ≠ some 0 := by
  rw [paramsBinding]
  by_cases zero : s.parameterLimit = some 0
  · rw [if_neg fun alone => alone.2 zero]
    refine iff_of_false (fun same => ?_) (fun other => other zero)
    cases congrArg Binding.content same
  · rw [if_pos ⟨rfl, zero⟩]
    exact iff_of_true rfl zero

namespace Binding

/-- A record whose fields are passed one by one. -/
def ofList (owner : String) (r : Record) (byPointer : Bool) (arrays : ArraySupport) : Binding :=
  ⟨.record owner r, false, byPointer, arrays⟩

variable (owner : String) (r : Record) (byPointer : Bool) (arrays : ArraySupport) (f : Field)

theorem arguments_ofList : (ofList owner r byPointer arrays).arguments =
    r.fields.map Field.argument := by
  simp [ofList]

theorem boundParams_ofList : (ofList owner r byPointer arrays).boundParams =
    r.fields.map (Field.bound arrays owner false) := by
  rw [ofList, boundParams_record]

/-- A single parameter is rendered alike by itself and as the only field of a record that is passed
field by field, whatever the record and its variable are called, and by pointer or not. -/
theorem alone_renders_as_listed (name : String) :
    let alone := ofField f.asVariable arrays
    let listed := ofList owner ⟨name, [f]⟩ byPointer arrays
    (∀ (q : QuerySpec) (s : Settings),
      q.paramsBinding s arrays [f] = alone ↔ s.parameterLimit ≠ some 0) ∧
    alone.arguments = listed.arguments ∧ alone.signature = listed.signature ∧
    alone.params = listed.params ∧ alone.hasSlices = listed.hasSlices ∧
    alone.columnNames = listed.columnNames := by
  intro alone listed
  have arguments : alone.arguments = listed.arguments := by
    rw [arguments_asVariable, arguments_ofList, List.map_singleton]
  have bound : alone.boundParams = listed.boundParams := by
    rw [boundParams_asVariable arrays f owner, boundParams_ofList, List.map_singleton]
  refine ⟨fun q s => q.paramsBinding_single_eq_iff s arrays f, arguments, ?_, ?_, ?_, ?_⟩
  · rw [signature, signature, arguments]
  · rw [params, params, bound]
  · simp [alone, listed, ofList]
  · simp [alone, listed, ofList, columnNames]

end Binding

/-- Whether two fields' names become one argument: with their first words lowered they are one
name, or a keyword and the name that it is escaped to. -/
def Go.MakeOneArgument (x y : String) : Prop :=
  Text.lowerFirst x = Text.lowerFirst y ∨ Marks (Text.lowerFirst x) (Text.lowerFirst y) ∨
    Marks (Text.lowerFirst y) (Text.lowerFirst x)

instance (x y : String) : Decidable (Go.MakeOneArgument x y) :=
  inferInstanceAs (Decidable (_ ∨ _ ∨ _))

/-- A name whose first word is lowered in so many capitals of ASCII, and that no underscore ends. -/
structure Go.BeginsWithCapitals (count : Nat) (name : String) : Prop where
  length : Text.firstWordLength name.toList = count
  plain : Text.HasPlainStart name.toList
  unmarked : name.toList.getLast? ≠ some '_'

instance (count : Nat) (name : String) : Decidable (Go.BeginsWithCapitals count name) :=
  decidable_of_iff (Text.firstWordLength name.toList = count ∧ Text.HasPlainStart name.toList ∧
      name.toList.getLast? ≠ some '_')
    ⟨fun ⟨length, plain, unmarked⟩ => ⟨length, plain, unmarked⟩,
      fun begins => ⟨begins.length, begins.plain, begins.unmarked⟩⟩

theorem Go.BeginsWithCapitals.not_marks {count : Nat} {keyword name : String}
    (begins : BeginsWithCapitals count name) : ¬ Marks keyword (Text.lowerFirst name) := by
  rintro ⟨-, marked⟩
  apply begins.unmarked
  apply Text.getLast?_lowerFirst begins.plain
  rw [marked, String.toList_append]
  exact List.getLast?_concat

theorem Go.BeginsWithCapitals.eq_of_makeOneArgument {count : Nat} {x y : String}
    (first : BeginsWithCapitals count x) (second : BeginsWithCapitals count y)
    (one : MakeOneArgument x y) : x = y := by
  rcases one with same | marks | marks
  · exact Text.lowerFirst_inj first.plain second.plain (first.length.trans second.length.symm) same
  · exact absurd marks second.not_marks
  · exact absurd marks first.not_marks

namespace Binding

theorem names_arguments_ofList (owner : String) (r : Record) (byPointer : Bool)
    (arrays : ArraySupport) :
    (ofList owner r byPointer arrays).arguments.map (·.name) =
      (r.fields.map (·.name)).map fun name => Go.escape (Text.lowerFirst name) := by
  rw [arguments_ofList, List.map_map, List.map_map]
  simp only [Function.comp_def, Field.argument_name]

/-- Fields with distinct names are passed in distinct arguments if and only if no two of their names
become one argument. Names that all begin with equally many capitals never do. -/
theorem arguments_distinct_iff {owner : String} {r : Record} {byPointer : Bool}
    {arrays : ArraySupport} (distinct : (r.fields.map (·.name)).Nodup) :
    let names := r.fields.map (·.name)
    let arguments := (ofList owner r byPointer arrays).arguments.map (·.name)
    (arguments.Nodup ↔ ∀ x ∈ names, ∀ y ∈ names, Go.MakeOneArgument x y → x = y) ∧
    ∀ count, (∀ x ∈ names, Go.BeginsWithCapitals count x) → arguments.Nodup := by
  intro names arguments
  have apart : arguments.Nodup ↔ ∀ x ∈ names, ∀ y ∈ names, Go.MakeOneArgument x y → x = y := by
    rw [show arguments = _ from names_arguments_ofList owner r byPointer arrays,
      List.nodup_map_iff_inj_on distinct]
    simp only [Go.escape_eq_iff, Go.MakeOneArgument]
    rfl
  refine ⟨apart, fun count alike => apart.mpr fun x first y second one => ?_⟩
  exact (alike x first).eq_of_makeOneArgument (alike y second) one

/-- Three fields that begin with one capital each, two of them keywords once it is lowered; and two
fields of which one begins with two capitals. -/
theorem arguments_distinct_iff_capitals :
    let arrays : ArraySupport := ⟨false, "pq.Array"⟩
    let ofNames : List String → Record := fun names =>
      ⟨"FindParams", names.map fun name => { name, type := .scalar .int64 }⟩
    let kept := ofNames ["Type", "Range", "AuthorID"]
    let merged := ofNames ["XY", "Xy"]
    (kept.fields.map (·.name)).Nodup ∧ (merged.fields.map (·.name)).Nodup ∧
      ((ofList "arg" kept true arrays).arguments.map (·.name)).Nodup ∧
      ¬ ((ofList "arg" merged true arrays).arguments.map (·.name)).Nodup := by
  intro arrays ofNames kept merged
  have distinct : (kept.fields.map (·.name)).Nodup := by decide
  have distinct' : (merged.fields.map (·.name)).Nodup := by decide
  refine ⟨distinct, distinct', (arguments_distinct_iff distinct).2 1 (by decide +kernel), ?_⟩
  rw [(arguments_distinct_iff distinct').1]
  decide +kernel

end Binding

/-- The columns `x_y` and `xy` are two fields of a struct of parameters. Passed one by one they have
one argument, named `xy`, twice. -/
theorem Statement.flattening_merges_columns :
    let q : QuerySpec :=
      { name := "SetPixel", command := ":exec", text := "UPDATE pixels SET x_y = $1 WHERE xy = $2"
        params := [{ dbName := "x_y", type := "int64" }, { dbName := "xy", type := "string" }] }
    ∃ st, ofQuery { parameterLimit := some 2 } q = .ok st ∧
      st.params.isRecord = true ∧ st.params.asStruct = false ∧
      st.params.fields.map (·.name) = ["XY", "Xy"] ∧
      st.params.arguments.map (·.name) = ["xy", "xy"] ∧
      (st.params.fields.map (·.name)).Nodup ∧ ¬ (st.params.arguments.map (·.name)).Nodup := by
  intro q
  have shown : (ofQuery { parameterLimit := some 2 } q).map (fun st => (st.params.isRecord,
      st.params.asStruct, st.params.fields.map (·.name), st.params.arguments.map (·.name))) =
      .ok (true, false, ["XY", "Xy"], ["xy", "xy"]) := by decide +kernel
  obtain ⟨st, made, shown⟩ := map_eq_ok_iff.mp shown
  simp only [Prod.mk.injEq] at shown
  obtain ⟨record, direct, fields, arguments⟩ := shown
  refine ⟨st, made, record, direct, fields, arguments, ?_, ?_⟩
  · rw [fields]
    decide
  · rw [arguments]
    decide

end QueryBinding
