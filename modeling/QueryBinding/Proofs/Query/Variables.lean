import QueryBinding.Proofs.Go.Name
import QueryBinding.Proofs.Query.Fields
import QueryBinding.Proofs.Query.Statement
import QueryBinding.Proofs.Row.Sites

/-! # The variable of a single value

A single value is held by one variable. Arguments, bound parameters and what a method returns spell
the variable as a name that Go accepts; the scan of a row and the slice of a batch spell it as it
is. Main statements: `scanned_eq_returned_iff` and `slice_names_argument_iff`, that the two
spellings part exactly at the keywords. -/

namespace QueryBinding

theorem ArraySupport.cases_text_destination (arrays : ArraySupport) (c : Column) (p : Place) :
    (arrays.destination c p).text = "&" ++ p.text ∨
    (arrays.destination c p).text = arrays.adapter ++ "(&" ++ p.text ++ ")" := by
  rw [text_destination, pointer]
  split
  · exact .inr rfl
  · exact .inl rfl

/-- A single column that is no embed stands for itself, under the name of a variable. -/
theorem QuerySpec.resultBinding_of_column {q : QuerySpec} {spec : FieldSpec} {columns : List Field}
    (single : q.columns = [spec]) (plain : spec.embed = none)
    (taken : FieldSpec.buildAll q.columns = .ok columns) (s : Settings) (arrays : ArraySupport) :
    ∃ name, spec.goName = .ok name ∧
      q.resultBinding s arrays columns = .ofField (spec.plainField name).asVariable arrays := by
  rw [single] at taken
  cases FieldSpec.buildAll_eq_ok_iff.mp taken with
  | cons first rest =>
      cases rest
      rw [FieldSpec.build_plain plain] at first
      obtain ⟨name, named, rfl⟩ := map_eq_ok_iff.mp first
      refine ⟨name, named, ?_⟩
      rw [resultBinding, if_pos ⟨rfl, Bool.false_ne_true⟩]

/-- The one destination of a single column is the address of the column's variable, and a method
returns that variable. Both spell it alike unless its name is a keyword; a keyword is scanned into
as it is, and returned with an underscore. -/
theorem Statement.scanned_eq_returned_iff {s : Settings} {q : QuerySpec} {st : Statement}
    {spec : FieldSpec} (accepted : ofQuery s q = .ok st) (single : q.columns = [spec])
    (plain : spec.embed = none) :
    ∃ name, spec.goName = .ok name ∧
      st.result.returned = Go.escape (Text.lowerFirst name) ∧
      Go.isKeyword st.result.returned = false ∧
      ∀ separate, ∃ d, st.result.destinations separate = [d] ∧
        st.result.scan separate = d.text ∧
        (d.text = "&" ++ d.place.text ∨ d.text = "pq.Array(&" ++ d.place.text ++ ")") ∧
        d.place.text = Text.lowerFirst name ∧
        (d.place.text = st.result.returned ↔ Go.isKeyword (Text.lowerFirst name) = false) := by
  obtain ⟨driver, command, table, params, columns, -, -, -, -, -, taken, made⟩ :=
    ofQuery_eq_ok_iff.mp accepted
  obtain ⟨name, named, bound⟩ :=
    QuerySpec.resultBinding_of_column single plain taken s driver.arrays
  have result : st.result = .ofField (spec.plainField name).asVariable driver.arrays :=
    (congrArg Statement.result made).trans bound
  rw [result, Binding.ofField, Binding.returned_scalar]
  refine ⟨name, named, rfl, Go.isKeyword_escape _, ?_⟩
  intro separate
  refine ⟨_, Binding.destinations_scalar _ false false _ separate, rfl, ?_, rfl, Go.eq_escape_iff⟩
  exact driver.arrays.cases_text_destination _ _

/-- A list under a column named by a keyword, over `lib/pq`. -/
theorem Statement.scanned_eq_returned_iff_list :
    let spec : FieldSpec := { dbName := "range", type := "[]int32" }
    let q : QuerySpec :=
      { name := "ListSpans", command := ":many", text := "SELECT …", columns := [spec] }
    ∃ st, ofQuery {} q = .ok st ∧ q.columns = [spec] ∧ spec.embed = none ∧
      st.result.returned = "range_" ∧
      ∀ separate, ∃ d, st.result.destinations separate = [d] ∧ d.place.text = "range" ∧
        d.place.text ≠ st.result.returned := by
  intro spec q
  have accepted : (ofQuery {} q).isOk = true := by decide +kernel
  cases made : ofQuery {} q with
  | error failure =>
      rw [made] at accepted
      cases accepted
  | ok st =>
      obtain ⟨name, named, returned, -, scanned⟩ := scanned_eq_returned_iff made rfl rfl
      have own : spec.goName = .ok "Range" := by decide +kernel
      cases own.symm.trans named
      have lowered : Text.lowerFirst "Range" = "range" := by decide +kernel
      rw [lowered] at returned scanned
      refine ⟨st, rfl, rfl, rfl, returned.trans (by decide), ?_⟩
      intro separate
      obtain ⟨d, dests, -, -, place, alike⟩ := scanned separate
      refine ⟨d, dests, place, ?_⟩
      intro same
      exact absurd (alike.mp same) (by decide)

/-- A column named `type` is scanned into `type`, while `type_` is what the method returns. -/
theorem Statement.scanned_ne_returned_keyword :
    let q : QuerySpec :=
      { name := "GetKind", command := ":one", text := "SELECT type FROM books"
        columns := [{ dbName := "type", type := "string" }] }
    ∃ st, ofQuery {} q = .ok st ∧ st.result.scan false = "&type" ∧ st.result.scan true = "&type" ∧
      st.result.returned = "type_" ∧ Go.isKeyword "type" = true := by
  intro q
  have shown : (ofQuery {} q).map (fun st => (st.result.scan false, st.result.scan true,
      st.result.returned)) = .ok ("&type", "&type", "type_") := by decide +kernel
  obtain ⟨st, made, shown⟩ := map_eq_ok_iff.mp shown
  simp only [Prod.mk.injEq] at shown
  obtain ⟨direct, apart, returned⟩ := shown
  exact ⟨st, made, direct, apart, returned, by decide⟩

namespace Binding

/-- Whether the value is passed as one argument: a single value, or a record that is a struct. -/
def isOneArgument (b : Binding) : Bool :=
  match b.content with
  | .empty => false
  | .scalar _ => true
  | .record _ _ => b.asStruct

theorem arguments_of_isOneArgument {b : Binding} (one : b.isOneArgument = true) :
    ∃ type, b.passedTypeText = .ok type ∧ b.arguments = [⟨Go.escape b.varName, type⟩] := by
  obtain ⟨content, asStruct, byPointer, arrays⟩ := b
  cases content with
  | empty => cases one
  | scalar field =>
      refine ⟨field.type.text, ?_, rfl⟩
      cases byPointer with
      | false => rfl
      | true => rfl
  | record owner r =>
      cases one
      cases byPointer with
      | false => exact ⟨r.name, rfl, rfl⟩
      | true => exact ⟨"*" ++ r.name, rfl, rfl⟩

theorem sliceSignature_of_passedTypeText {b : Binding} {type : String}
    (passed : b.passedTypeText = .ok type) : b.sliceSignature = b.varName ++ " []" ++ type := by
  rw [sliceSignature, passed]

/-- The slice of a batch holds values of the type of the one argument, and is named as the argument
is unless the variable is a keyword. -/
theorem slice_names_argument_iff {b : Binding} (one : b.isOneArgument = true) :
    ∃ a, b.arguments = [a] ∧ Go.isKeyword a.name = false ∧
      b.sliceSignature = b.varName ++ " []" ++ a.type ∧
      (b.varName = a.name ↔ Go.isKeyword b.varName = false) ∧
      (b.sliceSignature = a.name ++ " []" ++ a.type ↔ Go.isKeyword b.varName = false) := by
  obtain ⟨type, passed, arguments⟩ := arguments_of_isOneArgument one
  have slice := sliceSignature_of_passedTypeText passed
  refine ⟨_, arguments, Go.isKeyword_escape _, slice, Go.eq_escape_iff, ?_⟩
  rw [slice, ← Go.eq_escape_iff, String.append_left_inj, String.append_left_inj]

/-- A batch over a struct of parameters that is passed by pointer. -/
theorem slice_names_argument_iff_pointer :
    let b : Binding :=
      { Binding.ofRecord "arg" ⟨"AddBooksParams", [{ name := "Title", type := .scalar .string }]⟩
          ⟨false, "pq.Array"⟩ with byPointer := true }
    b.isOneArgument = true ∧ b.arguments = [⟨"arg", "*AddBooksParams"⟩] ∧
      b.sliceSignature = "arg []*AddBooksParams" := by
  intro b
  have one : b.isOneArgument = true := rfl
  obtain ⟨a, arguments, -, -, -, alike⟩ := slice_names_argument_iff one
  have own : b.arguments = [⟨"arg", "*AddBooksParams"⟩] := by decide
  cases own.symm.trans arguments
  exact ⟨one, own, alike.mpr (by decide)⟩

end Binding

/-- The batch form of a parameter named `type` declares `type`, while the parameter is read as
`type_`. -/
theorem Statement.slice_ne_argument_keyword :
    let q : QuerySpec :=
      { name := "DropKinds", command := ":batchexec", text := "DELETE FROM books WHERE type = $1"
        params := [{ dbName := "type", type := "string" }] }
    ∃ st, ofQuery {} q = .ok st ∧ st.params.isOneArgument = true ∧
      st.params.arguments = [⟨"type_", "string"⟩] ∧ st.params.params = "type_" ∧
      st.params.sliceSignature = "type []string" ∧ Go.isKeyword "type" = true := by
  intro q
  have shown : (ofQuery {} q).map (fun st => (st.params.isOneArgument, st.params.arguments,
      st.params.params, st.params.sliceSignature)) =
      .ok (true, [⟨"type_", "string"⟩], "type_", "type []string") := by decide +kernel
  obtain ⟨st, made, shown⟩ := map_eq_ok_iff.mp shown
  simp only [Prod.mk.injEq] at shown
  obtain ⟨one, arguments, params, slice⟩ := shown
  exact ⟨st, made, one, arguments, params, slice, by decide⟩

end QueryBinding
