import QueryBinding.Proofs.Query.Parameters
import QueryBinding.Proofs.Run.Agreement

/-! # The limit on parameters

How many parameters a query has, and how many may be passed one by one, decides between one argument
for all of them and one for each. The statement settles it, and the signature, the struct and the
pointer are rendered from it apart from each other. Main statement: `passed_by_limit`, that all of
them follow the same comparison. -/

namespace QueryBinding

/-- The names of a query's parameters in Go. -/
def QuerySpec.ParamNames (q : QuerySpec) (names : List String) : Prop :=
  List.Forall₂ (fun spec name => spec.goName = .ok name) q.params names

/-- A method takes one argument for all parameters, of a struct type or of a pointer to it. The
struct has one field for each name that a parameter has. -/
structure QuerySpec.TakesStruct (q : QuerySpec) (byPointer : Bool) (f : Fragments) : Prop where
  argument : f.arguments =
    [⟨"arg", if byPointer then "*" ++ (q.name ++ "Params") else q.name ++ "Params"⟩]
  struct : ∃ names, q.ParamNames names ∧
    ∀ name, (f.paramsStruct.map (·.name)).count name = if name ∈ names then 1 else 0

/-- A method takes one argument for each parameter, and there is no struct for them. -/
structure QuerySpec.TakesEach (q : QuerySpec) (f : Fragments) : Prop where
  arguments : f.arguments.length = q.params.length
  struct : f.paramsStruct = []

namespace QuerySpec

variable {q : QuerySpec} {s : Settings} {arrays : ArraySupport} {params : List Field}

/-- The two ways exclude each other: without parameters there is nothing to pass. -/
theorem TakesStruct.not_takesEach {byPointer : Bool} {f : Fragments}
    (together : q.TakesStruct byPointer f) : ¬ q.TakesEach f := by
  intro each
  obtain ⟨names, named, fields⟩ := together.struct
  have nameless : names = [] := by
    apply List.eq_nil_iff_forall_not_mem.mpr
    intro name member
    have counted := fields name
    rw [each.struct, if_pos member] at counted
    cases counted
  have count := each.arguments
  rw [together.argument, named.length_eq, nameless] at count
  cases count

theorem paramNames_of_buildAll (given : FieldSpec.buildAll q.params = .ok params) :
    q.ParamNames (params.map (·.name)) := by
  rw [ParamNames, List.forall₂_map_right_iff]
  exact (FieldSpec.buildAll_eq_ok_iff.mp given).imp fun _ _ => FieldSpec.goName_of_build

theorem takesStruct_of_asStruct {f : Fragments}
    (given : FieldSpec.buildAll q.params = .ok params)
    (struct : (q.paramsBinding s arrays params).asStruct = true)
    (arguments : f.arguments = (q.paramsBinding s arrays params).arguments)
    (fields : f.paramsStruct = (q.paramsBinding s arrays params).structFields false) :
    q.TakesStruct s.paramsByPointer f := by
  rw [paramsBinding_of_asStruct struct] at arguments fields
  refine ⟨arguments, params.map (·.name), paramNames_of_buildAll given, fun name => ?_⟩
  rw [fields]
  exact Binding.count_structFields_eq "arg" _ true _ arrays false name

theorem takesEach_of_not_asStruct {f : Fragments}
    (given : FieldSpec.buildAll q.params = .ok params)
    (direct : (q.paramsBinding s arrays params).asStruct = false)
    (arguments : f.arguments = (q.paramsBinding s arrays params).arguments)
    (fields : f.paramsStruct = []) : q.TakesEach f := by
  refine ⟨?_, fields⟩
  rw [arguments, arguments_of_not_asStruct direct, List.length_map]
  exact (FieldSpec.buildAll_eq_ok_iff.mp given).length_eq.symm

/-- Whether a pointer is asked for shows in no argument that holds one parameter. -/
theorem arguments_congr_of_not_asStruct {s' : Settings}
    (limit : s.parameterLimit = s'.parameterLimit)
    (direct : (q.paramsBinding s arrays params).asStruct = false) :
    (q.paramsBinding s' arrays params).arguments = (q.paramsBinding s arrays params).arguments := by
  have direct' : (q.paramsBinding s' arrays params).asStruct = false := by
    rw [asStruct_paramsBinding] at direct ⊢
    simpa only [Settings.exceedsLimit, limit] using direct
  rw [arguments_of_not_asStruct direct, arguments_of_not_asStruct direct']

end QuerySpec

/-- Parameters are passed as one struct if there are more of them than the limit, and one by one
otherwise, whoever renders the statement. The pointer option shows in the type of the struct's
argument, and in no argument that holds one parameter. -/
theorem Statement.passed_by_limit {s : Settings} {q : QuerySpec} {st : Statement}
    (accepted : ofQuery s q = .ok st) (g : Generator) :
    let beyond := ∃ limit, s.parameterLimit = some limit ∧ limit.toNat < q.params.length
    ∃ f, g.fragments st = .ok f ∧ (st.params.asStruct = true ↔ beyond) ∧
      (q.TakesStruct s.paramsByPointer f ↔ beyond) ∧ (q.TakesEach f ↔ ¬ beyond) ∧
      (¬ beyond → ∀ byPointer, ∃ st' f',
        ofQuery { s with paramsByPointer := byPointer } q = .ok st' ∧ g.fragments st' = .ok f' ∧
        f'.arguments = f.arguments) := by
  intro beyond
  obtain ⟨driver, command, table, params, columns, found, known, named, target, given, taken,
    rfl⟩ := ofQuery_eq_ok_iff.mp accepted
  obtain ⟨f, rendered⟩ := exists_fragments _ g.settings.nullableEmbeds g.dialect
  have told := rendered_of_fragments rendered
  have decided : (q.paramsBinding s driver.arrays params).asStruct = true ↔ beyond := by
    rw [QuerySpec.asStruct_paramsBinding, Settings.exceedsLimit_iff,
      ← (FieldSpec.buildAll_eq_ok_iff.mp given).length_eq]
  refine ⟨f, rendered, decided, ?_⟩
  rw [← decided]
  cases way : (q.paramsBinding s driver.arrays params).asStruct with
  | true =>
      have together : q.TakesStruct s.paramsByPointer f :=
        QuerySpec.takesStruct_of_asStruct given way told.arguments
          (told.paramsStruct.trans (if_pos way))
      exact ⟨iff_of_true together rfl, iff_of_false together.not_takesEach (not_not_intro rfl),
        fun direct => absurd rfl direct⟩
  | false =>
      have each : q.TakesEach f := QuerySpec.takesEach_of_not_asStruct given way told.arguments
        (told.paramsStruct.trans (if_neg (Bool.eq_false_iff.mp way)))
      refine ⟨iff_of_false (fun together => together.not_takesEach each) Bool.false_ne_true,
        iff_of_true each Bool.false_ne_true, fun _ byPointer => ?_⟩
      have made : ofQuery { s with paramsByPointer := byPointer } q = .ok _ :=
        ofQuery_eq_ok_iff.mpr ⟨driver, command, table, params, columns, found, known, named, target,
          given, taken, rfl⟩
      obtain ⟨f', rendered'⟩ := exists_fragments _ g.settings.nullableEmbeds g.dialect
      refine ⟨_, f', made, rendered', ?_⟩
      rw [(rendered_of_fragments rendered').arguments, told.arguments]
      exact QuerySpec.arguments_congr_of_not_asStruct (s := s) rfl way

/-- Three parameters of which two have one name, passed by a pointer to a struct with two fields
beyond a limit of two, and one by one within a limit of three. -/
theorem Statement.passed_by_limit_repeated :
    let q : QuerySpec :=
      { name := "FindBooks", command := ":many", text := "SELECT …"
        params := [{ dbName := "title", type := "string" }, { dbName := "id", type := "int64" },
          { dbName := "title", type := "string" }] }
    let s : Settings := { parameterLimit := some 2, paramsByPointer := true }
    let g : Generator := ⟨s, .postgresql⟩
    (∃ st f, ofQuery s q = .ok st ∧ g.fragments st = .ok f ∧
      f.arguments = [⟨"arg", "*FindBooksParams"⟩] ∧
      (f.paramsStruct.map (·.name)).count "Title" = 1 ∧ q.TakesStruct true f) ∧
    ∃ st f, ofQuery { s with parameterLimit := some 3 } q = .ok st ∧ g.fragments st = .ok f ∧
      f.arguments.length = 3 ∧ f.paramsStruct = [] ∧
      ∃ st' f', ofQuery { s with parameterLimit := some 3, paramsByPointer := false } q = .ok st' ∧
        g.fragments st' = .ok f' ∧ f'.arguments = f.arguments := by
  intro q s g
  constructor
  · obtain ⟨st, made⟩ := exists_of_isOk (show (ofQuery s q).isOk = true by decide +kernel)
    obtain ⟨f, rendered, -, together, -, -⟩ := passed_by_limit made g
    have takes := together.mpr ⟨2, rfl, by decide⟩
    obtain ⟨names, named, fields⟩ := takes.struct
    have title : "Title" ∈ names := by
      obtain _ | ⟨first, -⟩ := named
      have own : FieldSpec.goName { dbName := "title", type := "string" } = .ok "Title" := by
        decide +kernel
      cases own.symm.trans first
      exact List.mem_cons_self
    exact ⟨st, f, made, rendered, takes.argument, (fields "Title").trans (if_pos title), takes⟩
  · obtain ⟨st, made⟩ := exists_of_isOk
      (show (ofQuery { s with parameterLimit := some 3 } q).isOk = true by decide +kernel)
    obtain ⟨f, rendered, -, -, each, same⟩ := passed_by_limit made g
    have within : ¬ ∃ limit, some (3 : UInt64) = some limit ∧ limit.toNat < 3 := by
      rintro ⟨_, ⟨⟩, less⟩
      exact absurd less (by decide)
    have takes := each.mpr within
    exact ⟨st, f, made, rendered, takes.arguments, takes.struct, same within false⟩

end QueryBinding
