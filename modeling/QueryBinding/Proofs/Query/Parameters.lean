import QueryBinding.Proofs.Go.Layout
import QueryBinding.Proofs.Go.Name
import QueryBinding.Proofs.GoType.RoundTrip
import QueryBinding.Proofs.Query.Fields
import QueryBinding.Proofs.Query.Statement
import QueryBinding.Proofs.Row.FirstOfName

/-! # Parameters and arguments

A method takes its parameters one by one or as one struct. The expressions handed to the driver are
made apart from the arguments, and name them again. Main statement: `params_read_arguments`. -/

namespace QueryBinding

/-- The expression that a field is handed on by: its path in the struct that holds it, or its own
argument. -/
def Field.passed (owner : String) (struct : Bool) (f : Field) : String :=
  if struct then owner ++ "." ++ f.name else Go.escape (Text.lowerFirst f.name)

@[simp] theorem Field.passed_true (owner : String) (f : Field) :
    f.passed owner true = owner ++ "." ++ f.name := by
  simp [passed]

@[simp] theorem Field.passed_false (owner : String) (f : Field) :
    f.passed owner false = Go.escape (Text.lowerFirst f.name) := by
  simp [passed]

/-- How a field is handed to the driver. -/
def Field.bound (arrays : ArraySupport) (owner : String) (struct : Bool) (f : Field) : BoundParam :=
  ⟨f.passed owner struct, arrays.adapterFor f.type f.spread⟩

namespace Binding

theorem isKeyword_arguments (b : Binding) {a : Argument} (member : a ∈ b.arguments) :
    Go.isKeyword a.name = false := by
  obtain ⟨content, asStruct, byPointer, arrays⟩ := b
  cases content with
  | empty => cases member
  | scalar field =>
      cases List.mem_singleton.mp member
      exact Go.isKeyword_escape field.name
  | record owner r =>
      rw [arguments_record] at member
      cases asStruct with
      | false =>
          obtain ⟨f, -, rfl⟩ := List.mem_map.mp member
          rw [Field.argument_name]
          exact Go.isKeyword_escape (Text.lowerFirst f.name)
      | true =>
          cases List.mem_singleton.mp member
          exact Go.isKeyword_escape owner

theorem lists_params (b : Binding) : Go.Lists b.params (b.boundParams.map BoundParam.text) :=
  Go.lists_callLayout _

theorem boundParams_record (owner : String) (r : Record) (asStruct byPointer : Bool)
    (arrays : ArraySupport) :
    boundParams ⟨.record owner r, asStruct, byPointer, arrays⟩ =
      r.fields.map (Field.bound arrays owner asStruct) := by
  cases asStruct <;> simp [boundParams, reading, Field.bound, Go.escape_path]

theorem arguments_asVariable (arrays : ArraySupport) (f : Field) :
    (ofField f.asVariable arrays).arguments = [f.argument] := by
  simp [Field.argument]

theorem boundParams_asVariable (arrays : ArraySupport) (f : Field) (owner : String) :
    (ofField f.asVariable arrays).boundParams = [f.bound arrays owner false] := by
  simp [Field.bound]

/-- The struct of a record has one field for each name among the record's fields, and no others. -/
theorem count_structFields_eq (owner : String) (r : Record) (asStruct byPointer : Bool)
    (arrays : ArraySupport) (separate : Bool) (name : String) :
    ((structFields ⟨.record owner r, asStruct, byPointer, arrays⟩ separate).map (·.name)).count
      name = if name ∈ r.fields.map (·.name) then 1 else 0 := by
  rw [names_structFields, uniqueFields_record, Record.uniqueFields,
    (nodup_names_firstOfEachName r.fields).count]
  simp only [mem_names_firstOfEachName]

theorem count_structFields {owner : String} {r : Record} {f : Field} (member : f ∈ r.fields)
    (asStruct byPointer : Bool) (arrays : ArraySupport) (separate : Bool) :
    ((structFields ⟨.record owner r, asStruct, byPointer, arrays⟩ separate).map (·.name)).count
      f.name = 1 := by
  rw [count_structFields_eq, if_pos (List.mem_map_of_mem member)]

end Binding

/-- A parameter's own argument: under its name in Go and, unless it is an embed, in the type that
the query spells. -/
def FieldSpec.PassedAs (spec : FieldSpec) (a : Argument) : Prop :=
  (∃ name, spec.goName = .ok name ∧ a.name = Go.escape (Text.lowerFirst name)) ∧
  (spec.embed = none → a.type = spec.type)

/-- The path to a parameter in the struct `arg`, which has one field of the parameter's name. -/
def FieldSpec.ReadFrom (struct : List Argument) (spec : FieldSpec) (expression : String) : Prop :=
  ∃ name, spec.goName = .ok name ∧ expression = "arg." ++ name ∧
    (struct.map (·.name)).count name = 1

namespace QuerySpec

variable {q : QuerySpec} {s : Settings} {arrays : ArraySupport} {fields : List Field}

theorem arrays_paramsBinding : (q.paramsBinding s arrays fields).arrays = arrays := by
  obtain ⟨-, bound⟩ | ⟨f, -, -, bound⟩ | ⟨-, bound⟩ := q.cases_paramsBinding s arrays fields <;>
    simp [bound]

theorem arguments_of_not_asStruct (direct : (q.paramsBinding s arrays fields).asStruct = false) :
    (q.paramsBinding s arrays fields).arguments = fields.map Field.argument := by
  obtain ⟨rfl, bound⟩ | ⟨f, rfl, -, bound⟩ | ⟨-, bound⟩ := q.cases_paramsBinding s arrays fields
  · simp [bound]
  · rw [bound, Binding.arguments_asVariable, List.map_singleton]
  · have individually : s.exceedsLimit fields.length = false := by simpa [bound] using direct
    simp [bound, individually]

theorem paramsBinding_of_asStruct (struct : (q.paramsBinding s arrays fields).asStruct = true) :
    q.paramsBinding s arrays fields =
      ⟨.record "arg" ⟨q.name ++ "Params", fields⟩, true, s.paramsByPointer, arrays⟩ := by
  obtain ⟨-, bound⟩ | ⟨f, -, -, bound⟩ | ⟨-, bound⟩ := q.cases_paramsBinding s arrays fields
  · simp [bound] at struct
  · simp [bound] at struct
  · rw [bound] at struct ⊢
    simpa using struct

/-- Every shape of parameters hands each of them on, under the adapter for its type. -/
theorem boundParams_paramsBinding : (q.paramsBinding s arrays fields).boundParams =
    fields.map (Field.bound arrays "arg" (q.paramsBinding s arrays fields).asStruct) := by
  obtain ⟨rfl, bound⟩ | ⟨f, rfl, -, bound⟩ | ⟨-, bound⟩ := q.cases_paramsBinding s arrays fields
  · simp [bound]
  · simp [bound, Field.bound]
  · rw [bound, Binding.boundParams_record]

theorem expressions_paramsBinding :
    (q.paramsBinding s arrays fields).boundParams.map (·.expression) =
      fields.map (Field.passed "arg" (q.paramsBinding s arrays fields).asStruct) := by
  simp [boundParams_paramsBinding, Field.bound]

theorem arguments_of_params {params : List Field} (given : FieldSpec.buildAll q.params = .ok params)
    (direct : (q.paramsBinding s arrays params).asStruct = false) :
    List.Forall₂ FieldSpec.PassedAs q.params (q.paramsBinding s arrays params).arguments := by
  rw [arguments_of_not_asStruct direct, List.forall₂_map_right_iff]
  apply (FieldSpec.buildAll_eq_ok_iff.mp given).imp
  intro spec f built
  refine ⟨⟨f.name, FieldSpec.goName_of_build built, f.argument_name⟩, fun plain => ?_⟩
  rw [Field.argument, FieldSpec.type_of_build built plain, GoType.text_parse]

theorem paths_of_params {params : List Field} (given : FieldSpec.buildAll q.params = .ok params)
    (struct : (q.paramsBinding s arrays params).asStruct = true) :
    List.Forall₂
      (FieldSpec.ReadFrom ((q.paramsBinding s arrays params).structFields false))
      q.params ((q.paramsBinding s arrays params).boundParams.map (·.expression)) := by
  rw [expressions_paramsBinding, struct, paramsBinding_of_asStruct struct,
    List.forall₂_map_right_iff]
  obtain ⟨length, pairs⟩ := List.forall₂_iff_zip.mp (FieldSpec.buildAll_eq_ok_iff.mp given)
  refine List.forall₂_iff_zip.mpr ⟨length, fun {spec f} pair => ?_⟩
  exact ⟨f.name, FieldSpec.goName_of_build (pairs pair), f.passed_true "arg",
    Binding.count_structFields (List.of_mem_zip pair).2 true s.paramsByPointer arrays false⟩

theorem expressions_of_not_asStruct
    (direct : (q.paramsBinding s arrays fields).asStruct = false) :
    (q.paramsBinding s arrays fields).boundParams.map (·.expression) =
      (q.paramsBinding s arrays fields).arguments.map (·.name) := by
  simp [expressions_paramsBinding, arguments_of_not_asStruct direct, direct]

end QuerySpec

theorem BoundParam.text_of_mem {b : Binding} {p : BoundParam} (member : p ∈ b.boundParams) :
    p.text = p.expression ∨ p.text = b.arrays.adapter ++ "(" ++ p.expression ++ ")" := by
  obtain ⟨f, -, rfl⟩ := List.mem_map.mp member
  rw [text, ArraySupport.adapterFor]
  split
  · exact .inr rfl
  · exact .inl rfl

/-- What is handed to the driver, one entry for each parameter, reads the arguments of the method,
bare or through the adapter for lists. An argument that holds one parameter is read by its name, and
has the type the query spells. A struct is read field by field, and has each field that is read. -/
theorem Statement.params_read_arguments {s : Settings} {q : QuerySpec} {st : Statement}
    (accepted : ofQuery s q = .ok st) :
    ∃ entries expressions : List String,
      Go.Lists st.params.params entries ∧
      List.Forall₂ (fun x entry => entry = x ∨ entry = "pq.Array(" ++ x ++ ")")
        expressions entries ∧
      (∀ a ∈ st.params.arguments, Go.isKeyword a.name = false) ∧
      if st.params.asStruct then
        (∃ type, st.params.arguments = [⟨"arg", type⟩]) ∧
        List.Forall₂ (FieldSpec.ReadFrom (st.params.structFields false)) q.params expressions
      else
        List.Forall₂ FieldSpec.PassedAs q.params st.params.arguments ∧
        expressions = st.params.arguments.map (·.name) := by
  obtain ⟨driver, command, table, params, columns, -, -, -, -, given, -, made⟩ :=
    ofQuery_eq_ok_iff.mp accepted
  have bound : st.params = q.paramsBinding s driver.arrays params := congrArg Statement.params made
  rw [bound]
  refine ⟨(q.paramsBinding s driver.arrays params).boundParams.map BoundParam.text,
    (q.paramsBinding s driver.arrays params).boundParams.map (·.expression),
    Binding.lists_params _, ?_, fun a member => Binding.isKeyword_arguments _ member, ?_⟩
  · rw [List.forall₂_map_left_iff, List.forall₂_map_right_iff, List.forall₂_same]
    intro p member
    have handed := BoundParam.text_of_mem member
    rwa [QuerySpec.arrays_paramsBinding] at handed
  · split
    · next struct =>
        refine ⟨⟨if s.paramsByPointer then "*" ++ (q.name ++ "Params") else q.name ++ "Params", ?_⟩,
          QuerySpec.paths_of_params given struct⟩
        rw [QuerySpec.paramsBinding_of_asStruct struct]
        rfl
    · next direct =>
        have direct := Bool.eq_false_iff.mpr direct
        exact ⟨QuerySpec.arguments_of_params given direct,
          QuerySpec.expressions_of_not_asStruct direct⟩

/-- Two parameters, one named by a keyword, within the limit on single arguments and beyond it. -/
theorem Statement.params_read_arguments_keyword :
    let q : QuerySpec :=
      { name := "FindBooks", command := ":many", text := "SELECT …"
        params := [{ dbName := "type", type := "string" }, { dbName := "ids", type := "[]int64" }] }
    (∃ st entries, ofQuery { parameterLimit := some 2 } q = .ok st ∧
      st.params.arguments = [⟨"type_", "string"⟩, ⟨"ids", "[]int64"⟩] ∧
      Go.Lists st.params.params entries ∧
      List.Forall₂ (fun x entry => entry = x ∨ entry = "pq.Array(" ++ x ++ ")")
        ["type_", "ids"] entries) ∧
    ∃ st entries type, ofQuery { parameterLimit := some 1 } q = .ok st ∧
      st.params.arguments = [⟨"arg", type⟩] ∧
      Go.Lists st.params.params entries ∧
      List.Forall₂ (fun x entry => entry = x ∨ entry = "pq.Array(" ++ x ++ ")")
        ["arg.Type", "arg.Ids"] entries := by
  intro q
  constructor
  · have direct : (ofQuery { parameterLimit := some 2 } q).map (·.params.asStruct) = .ok false := by
      decide
    obtain ⟨st, made, direct⟩ := map_eq_ok_iff.mp direct
    obtain ⟨entries, expressions, listed, handed, -, read⟩ := params_read_arguments made
    rw [if_neg (Bool.eq_false_iff.mp direct)] at read
    obtain ⟨arguments, rfl⟩ := read
    have arguments : st.params.arguments = [⟨"type_", "string"⟩, ⟨"ids", "[]int64"⟩] := by
      change List.Forall₂ _ [_, _] _ at arguments
      generalize st.params.arguments = given at arguments
      obtain _ | ⟨⟨⟨_, named, nameIs⟩, typeIs⟩,
        _ | ⟨⟨⟨_, named', nameIs'⟩, typeIs'⟩, _ | _⟩⟩ := arguments
      cases named
      cases named'
      exact congrArg₂ (fun first second => [first, second])
        (congrArg₂ Argument.mk (nameIs.trans (by decide)) (typeIs rfl))
        (congrArg₂ Argument.mk (nameIs'.trans (by decide)) (typeIs' rfl))
    rw [arguments] at handed
    exact ⟨st, entries, made, arguments, listed, handed⟩
  · have struct : (ofQuery { parameterLimit := some 1 } q).map (·.params.asStruct) = .ok true := by
      decide
    obtain ⟨st, made, struct⟩ := map_eq_ok_iff.mp struct
    obtain ⟨entries, expressions, listed, handed, -, read⟩ := params_read_arguments made
    rw [if_pos struct] at read
    obtain ⟨⟨type, arguments⟩, paths⟩ := read
    have paths : expressions = ["arg.Type", "arg.Ids"] := by
      change List.Forall₂ _ [_, _] _ at paths
      obtain _ | ⟨⟨_, named, pathIs, -⟩, _ | ⟨⟨_, named', pathIs', -⟩, _ | _⟩⟩ := paths
      cases named
      cases named'
      exact congrArg₂ (fun first second => [first, second]) (pathIs.trans (by decide))
        (pathIs'.trans (by decide))
    rw [paths] at handed
    exact ⟨st, entries, type, made, arguments, listed, handed⟩

end QueryBinding
