import QueryBinding.Proofs.GoType.ListText
import QueryBinding.Proofs.Query.Parameters

/-! # Lists in accepted queries

Whether a parameter or a column goes through the adapter for lists is settled by the text of its
type, the driver, and for a parameter by whether it is expanded. The text passes through the reader
of types and through every shape a binding can have. Main statement: `adapter_of_type_text`. -/

namespace QueryBinding

/-- Whether values of a type so spelled are adapted for the driver. -/
def Driver.Adapts (d : Driver) (type : String) : Prop := d.isPgx = false ∧ IsListText type

instance (d : Driver) (type : String) : Decidable (d.Adapts type) :=
  inferInstanceAs (Decidable (_ ∧ _))

theorem Driver.adapterFor_parse (d : Driver) (type : String) (spread : Bool) :
    d.arrays.adapterFor (.parse type) spread =
      if d.Adapts type ∧ spread = false then some "pq.Array" else none := by
  have same : ((GoType.parse type).isList && !spread && d.arrays.needsAdapter) = true ↔
      d.Adapts type ∧ spread = false := by
    simp only [Bool.and_eq_true, GoType.isList_parse, Adapts, arrays, ArraySupport.needsAdapter,
      Bool.not_eq_true']
    exact ⟨fun ⟨⟨list, whole⟩, foreign⟩ => ⟨⟨foreign, list⟩, whole⟩,
      fun ⟨⟨foreign, list⟩, whole⟩ => ⟨⟨list, whole⟩, foreign⟩⟩
  simp only [ArraySupport.adapterFor, same]
  rfl

theorem Driver.pointer_parse (d : Driver) (type path : String) :
    d.arrays.pointer (.parse type) path =
      if d.Adapts type then "pq.Array(&" ++ path ++ ")" else "&" ++ path := by
  have same : ((GoType.parse type).isList && d.arrays.needsAdapter) = true ↔ d.Adapts type := by
    simp only [Bool.and_eq_true, GoType.isList_parse, Adapts, arrays, ArraySupport.needsAdapter,
      Bool.not_eq_true', and_comm]
  simp only [ArraySupport.pointer, same]
  rfl

theorem adapted_ite (c : Prop) [Decidable c] (function expression : String) :
    adapted (if c then some function else none) expression =
      if c then function ++ "(" ++ expression ++ ")" else expression := by
  split <;> rfl

namespace QuerySpec

variable (q : QuerySpec) (s : Settings) (arrays : ArraySupport) (fields : List Field)

theorem arrays_resultBinding : (q.resultBinding s arrays fields).arrays = arrays := by
  obtain ⟨-, bound⟩ | ⟨f, -, -, bound⟩ | ⟨-, -, bound⟩ := q.cases_resultBinding s arrays fields <;>
    simp [bound]

/-- Every shape of a row takes each column to one destination. -/
theorem columns_destinations_resultBinding (separate : Bool) :
    ((q.resultBinding s arrays fields).destinations separate).map
        (fun d => (d.column.dbName, d.column.type)) =
      (fields.flatMap Field.columns).map fun c => (c.dbName, c.type) := by
  obtain ⟨rfl, bound⟩ | ⟨f, rfl, plain, bound⟩ | ⟨-, -, bound⟩ :=
    q.cases_resultBinding s arrays fields
  · simp [bound]
  · simp [bound, plain, ArraySupport.destination]
  · rw [bound, Binding.destinations_eq_sites, List.map_map]
    exact Record.map_sites ⟨_, fields⟩ fun c => (c.dbName, c.type)

/-- The parameters of an accepted query as they are handed on, each through the adapter that its
description asks for. -/
theorem entries_of_params {params : List Field} (d : Driver)
    (given : FieldSpec.buildAll q.params = .ok params) :
    List.Forall₂ (fun spec entry => spec.embed = none → ∃ name value, spec.goName = .ok name ∧
        (value = if (q.paramsBinding s d.arrays params).asStruct then "arg." ++ name
          else Go.escape (Text.lowerFirst name)) ∧
        entry = if d.Adapts spec.type ∧ spec.isSlice = false then "pq.Array(" ++ value ++ ")"
          else value)
      q.params ((q.paramsBinding s d.arrays params).boundParams.map BoundParam.text) := by
  rw [boundParams_paramsBinding, List.map_map, List.forall₂_map_right_iff]
  apply (FieldSpec.buildAll_eq_ok_iff.mp given).imp
  intro spec f built plain
  rw [FieldSpec.build_plain plain] at built
  obtain ⟨name, named, rfl⟩ := map_eq_ok_iff.mp built
  refine ⟨name, _, named, rfl, ?_⟩
  simp only [Function.comp_apply, Field.bound, BoundParam.text, FieldSpec.type_plainField,
    FieldSpec.spread_plainField, d.adapterFor_parse, adapted_ite]
  rfl

/-- The pointers that an accepted query is scanned into, each through the adapter that the
description of its column asks for. -/
theorem entries_of_columns {columns : List Field} (d : Driver)
    (taken : FieldSpec.buildAll q.columns = .ok columns) (separate : Bool) :
    List.Forall₂ (fun leaf entry => ∃ c path,
        (q.resultBinding s d.arrays columns).Reaches separate c path ∧
        c.dbName = leaf.dbName ∧ c.type = .parse leaf.type ∧
        entry = if d.Adapts leaf.type then "pq.Array(&" ++ path ++ ")" else "&" ++ path)
      (q.columns.flatMap FieldSpec.leaves)
      ((q.resultBinding s d.arrays columns).pointers separate) := by
  have columns : List.Forall₂ (fun leaf shown => shown = (leaf.dbName, GoType.parse leaf.type))
      (q.columns.flatMap FieldSpec.leaves)
      (((q.resultBinding s d.arrays columns).destinations separate).map
        fun d => (d.column.dbName, d.column.type)) := by
    rw [columns_destinations_resultBinding, List.forall₂_map_right_iff]
    apply (FieldSpec.gives_leaves_of_buildAll taken).imp
    rintro leaf c ⟨-, name, -, rfl⟩
    rfl
  rw [List.forall₂_map_right_iff] at columns
  obtain ⟨length, pairs⟩ := List.forall₂_iff_zip.mp columns
  rw [Binding.pointers, List.forall₂_map_right_iff, List.forall₂_iff_zip]
  refine ⟨length, fun {leaf dest} pair => ?_⟩
  obtain ⟨dbName, type⟩ := Prod.mk.inj (pairs pair)
  refine ⟨dest.column, dest.place.text,
    Binding.reaches_of_mem_destinations (List.of_mem_zip pair).2, dbName, type, ?_⟩
  rw [arrays_resultBinding, type, d.pointer_parse]

end QuerySpec

/-- A parameter is handed on through an adapter, and a column is scanned through one, if the driver
needs it for the type as the query spells it. A parameter that is expanded is left alone; for a
column that makes no difference, nor does the embed it may be in. -/
theorem Statement.adapter_of_type_text {s : Settings} {q : QuerySpec} {st : Statement}
    (accepted : ofQuery s q = .ok st) :
    ∃ driver, s.driver = .ok driver ∧
      (∃ entries, Go.Lists st.params.params entries ∧
        List.Forall₂ (fun spec entry => spec.embed = none → ∃ name value,
            spec.goName = .ok name ∧
            (value = if st.params.asStruct then "arg." ++ name
              else Go.escape (Text.lowerFirst name)) ∧
            entry = if driver.Adapts spec.type ∧ spec.isSlice = false
              then "pq.Array(" ++ value ++ ")" else value)
          q.params entries) ∧
      ∀ separate, ∃ entries, Go.Lists (st.result.scan separate) entries ∧
        List.Forall₂ (fun leaf entry => ∃ c path, st.result.Reaches separate c path ∧
            c.dbName = leaf.dbName ∧ c.type = .parse leaf.type ∧
            entry = if driver.Adapts leaf.type then "pq.Array(&" ++ path ++ ")" else "&" ++ path)
          (q.columns.flatMap FieldSpec.leaves) entries := by
  obtain ⟨driver, command, table, params, columns, found, -, -, -, given, taken, rfl⟩ :=
    ofQuery_eq_ok_iff.mp accepted
  refine ⟨driver, found, ⟨_, Binding.lists_params _, q.entries_of_params s driver given⟩, ?_⟩
  intro separate
  exact ⟨_, Binding.lists_scan _ separate, q.entries_of_columns s driver taken separate⟩

/-- A run over `lib/pq` with a list, bytes and an expanded list for parameters, and a list in an
embed that may be absent. -/
theorem Statement.adapter_of_type_text_lists :
    let q : QuerySpec :=
      { name := "FindBooks", command := ":many", text := "SELECT …"
        params := [{ dbName := "ids", type := "[]int64" }, { dbName := "mark", type := "[]byte" },
          { dbName := "tags", type := "[]string", isSlice := true }]
        columns := [{ dbName := "title", type := "string" },
          { name := some "Author", type := "Author"
            embed := some ⟨[{ dbName := "id", type := "int64" },
              { dbName := "names", type := "[]string" }], true, ["Id"]⟩ }] }
    ∃ st ids mark tags title id names, ofQuery {} q = .ok st ∧
      Go.Lists st.params.params ["pq.Array(" ++ ids ++ ")", mark, tags] ∧
      Go.Lists (st.result.scan true) ["&" ++ title, "&" ++ id, "pq.Array(&" ++ names ++ ")"] := by
  intro q
  have accepted : (ofQuery {} q).isOk = true := by decide
  cases made : ofQuery {} q with
  | error failure =>
      rw [made] at accepted
      cases accepted
  | ok st =>
      obtain ⟨driver, found, ⟨handed, given, params⟩, scanned⟩ := adapter_of_type_text made
      obtain ⟨pointers, taken, columns⟩ := scanned true
      cases found
      change List.Forall₂ _ [_, _, _] _ at columns
      obtain _ | ⟨list, _ | ⟨bytes, _ | ⟨spread, _ | _⟩⟩⟩ := params
      obtain ⟨-, ids, -, -, list⟩ := list rfl
      obtain ⟨-, mark, -, -, bytes⟩ := bytes rfl
      obtain ⟨-, tags, -, -, spread⟩ := spread rfl
      obtain _ | ⟨⟨-, title, -, -, -, plain⟩, _ | ⟨⟨-, id, -, -, -, key⟩,
        _ | ⟨⟨-, names, -, -, -, wrapped⟩, _ | _⟩⟩⟩ := columns
      rw [if_pos (by decide)] at list wrapped
      rw [if_neg (by decide)] at bytes spread plain key
      subst list bytes spread plain key wrapped
      exact ⟨st, ids, _, _, title, id, names, rfl, given, taken⟩

end QueryBinding
