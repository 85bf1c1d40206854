import QueryBinding.Proofs.Query.Checks
import QueryBinding.Proofs.Run.Rendering

/-! # Runs over lists of queries

A run takes its queries one by one and stops at the first that is refused. Main statement:
`runs_append`, that runs over two lists make up the run over both, unless the first stops. -/

namespace QueryBinding

/-- What a run gives once its request is read. -/
def Request.fragments (r : Request) : Except RunFailure (List Fragments) := do
  let generator ← (Generator.ofSettings r.settings).mapError .refused
  let statements ← (generator.build r.queries).mapError .refused
  (generator.generate statements).mapError .misuse

/-- The first query of a list that is refused, and what for. -/
def FirstRefused (s : Settings) (queries : List QuerySpec) (q : QuerySpec) (own : Failure) : Prop :=
  ∃ before after, queries = before ++ q :: after ∧
    (∀ earlier ∈ before, ∃ st, Statement.ofQuery s earlier = .ok st) ∧
    Statement.ofQuery s q = .error own

namespace Generator

/-- The fragments of a query by itself. -/
def Renders (g : Generator) (q : QuerySpec) (f : Fragments) : Prop :=
  ∃ st, Statement.ofQuery g.settings q = .ok st ∧ g.fragments st = .ok f

theorem settings_of_ofSettings {s : Settings} {g : Generator} (made : ofSettings s = .ok g) :
    g.settings = s := by
  obtain ⟨driver, -, rfl⟩ := map_eq_ok_iff.mp made
  rfl

variable {g : Generator} {queries first second : List QuerySpec}
variable {statements a b : List Statement} {fragments fa fb : List Fragments} {failure : Failure}

theorem build_append (g : Generator) (first second : List QuerySpec) :
    g.build (first ++ second) = (do
      let a ← g.build first
      let b ← g.build second
      .ok (a ++ b)) :=
  List.mapM_append

theorem build_append_ok (whole : g.build first = .ok a) (rest : g.build second = .ok b) :
    g.build (first ++ second) = .ok (a ++ b) := by
  simp [build_append, whole, rest]

theorem build_append_error (stopped : g.build first = .error failure) (second : List QuerySpec) :
    g.build (first ++ second) = .error failure := by
  simp [build_append, stopped]

theorem generate_append (whole : g.generate a = .ok fa) (rest : g.generate b = .ok fb) :
    g.generate (a ++ b) = .ok (fa ++ fb) := by
  rw [generate] at *
  simp [List.mapM_append, whole, rest]

theorem exists_generate (g : Generator) (statements : List Statement) :
    ∃ fragments, g.generate statements = .ok fragments := by
  have rendered : ∀ st ∈ statements, ∃ f, g.fragments st = .ok f ∧ () = () := by
    intro st _
    obtain ⟨f, rendered⟩ := st.exists_fragments g.settings.nullableEmbeds g.dialect
    exact ⟨f, rendered, rfl⟩
  obtain ⟨fragments, generated, -⟩ := exists_mapM_eq_ok rendered
  exact ⟨fragments, generated⟩

theorem statement_eq_ok_iff {q : QuerySpec} {st : Statement} :
    g.statement q = .ok st ↔ Statement.ofQuery g.settings q = .ok st :=
  mapError_eq_ok_iff

theorem renders_of_build (built : g.build queries = .ok statements)
    (generated : g.generate statements = .ok fragments) :
    List.Forall₂ g.Renders queries fragments := by
  have made := mapM_eq_ok_iff.mp built
  have rendered := mapM_eq_ok_iff.mp generated
  clear built generated
  induction made generalizing fragments with
  | nil =>
      cases rendered
      exact .nil
  | cons accepted _ ih =>
      cases rendered with
      | cons first rest => exact .cons ⟨_, statement_eq_ok_iff.mp accepted, first⟩ (ih rest)

/-- A run stops with a remark on the file of the first query that is refused. -/
theorem firstRefused_of_build (stopped : g.build queries = .error failure) :
    ∃ q own, FirstRefused g.settings queries q own ∧ failure = own.noted q.origin := by
  rw [← faultIn_eq_some_iff, build, faultIn_mapM fun _ _ => rfl, List.findSome?_eq_some_iff]
    at stopped
  obtain ⟨before, q, after, split, refused, accepted⟩ := stopped
  rw [statement, faultIn_mapError] at refused
  obtain ⟨own, found, rfl⟩ := Option.map_eq_some_iff.mp refused
  refine ⟨q, own, ⟨before, after, split, fun earlier member => ?_, faultIn_eq_some_iff.mp found⟩,
    rfl⟩
  obtain ⟨st, accepted⟩ := faultIn_eq_none_iff.mp (accepted earlier member)
  exact ⟨st, statement_eq_ok_iff.mp accepted⟩

end Generator

namespace Request

variable {s : Settings} {g : Generator} {queries : List QuerySpec} {failure : Failure}

theorem fragments_of_invalid (invalid : Generator.ofSettings s = .error failure)
    (queries : List QuerySpec) : fragments ⟨s, queries⟩ = .error (.refused failure) := by
  simp [fragments, invalid]

theorem fragments_of_error (made : Generator.ofSettings s = .ok g)
    (stopped : g.build queries = .error failure) :
    fragments ⟨s, queries⟩ = .error (.refused failure) := by
  simp [fragments, made, stopped]

theorem fragments_of_ok {statements : List Statement} {rendered : List Fragments}
    (made : Generator.ofSettings s = .ok g) (built : g.build queries = .ok statements)
    (generated : g.generate statements = .ok rendered) :
    fragments ⟨s, queries⟩ = .ok rendered := by
  simp [fragments, made, built, generated]

end Request

/-- A run over two lists gives what the runs over each give, one after the other, so that each query
is rendered by itself. A run that stops does so at the first query that is refused, whatever comes
after it, and names that query's file. With settings that name no driver no query is looked at. -/
theorem Generator.runs_append (s : Settings) :
    (∀ text, run text = ((Request.ofText text).mapError .unreadable >>= Request.fragments)) ∧
    (∀ failure, ofSettings s = .error failure →
      ∀ queries, Request.fragments ⟨s, queries⟩ = .error (.refused failure)) ∧
    ∀ g, ofSettings s = .ok g →
      (∀ first second a b, g.build first = .ok a → g.build second = .ok b →
        g.build (first ++ second) = .ok (a ++ b) ∧
        ∃ fa fb, g.generate a = .ok fa ∧ g.generate b = .ok fb ∧
          g.generate (a ++ b) = .ok (fa ++ fb)) ∧
      (∀ first failure, g.build first = .error failure →
        ∀ second, g.build (first ++ second) = .error failure) ∧
      (∀ queries statements, g.build queries = .ok statements →
        ∃ fragments, g.generate statements = .ok fragments ∧
          List.Forall₂ g.Renders queries fragments ∧
          Request.fragments ⟨s, queries⟩ = .ok fragments) ∧
      ∀ queries failure, g.build queries = .error failure →
        ∃ q own, FirstRefused s queries q own ∧ failure = own.noted q.origin ∧
          failure.message =
            (if q.filename = "" then "<unknown>" else q.filename) ++ ": " ++ own.message ∧
          Request.fragments ⟨s, queries⟩ = .error (.refused failure) := by
  refine ⟨fun text => rfl, fun failure invalid => Request.fragments_of_invalid invalid,
    fun g made => ⟨?_, ?_, ?_, ?_⟩⟩
  · intro first second a b whole rest
    obtain ⟨fa, rendered⟩ := g.exists_generate a
    obtain ⟨fb, rendered'⟩ := g.exists_generate b
    exact ⟨build_append_ok whole rest, fa, fb, rendered, rendered',
      generate_append rendered rendered'⟩
  · intro first failure stopped second
    exact build_append_error stopped second
  · intro queries statements built
    obtain ⟨fragments, generated⟩ := g.exists_generate statements
    exact ⟨fragments, generated, renders_of_build built generated,
      Request.fragments_of_ok made built generated⟩
  · intro queries failure stopped
    obtain ⟨q, own, first, rfl⟩ := firstRefused_of_build stopped
    rw [settings_of_ofSettings made] at first
    exact ⟨q, own, first, rfl, own.message_noted q.origin,
      Request.fragments_of_error made stopped⟩

/-- A query that is accepted twice; the same before one with an unknown command, and that before one
without a name; and settings under which no query is looked at. -/
theorem Generator.runs_append_stopped :
    let ping : QuerySpec :=
      { name := "Ping", command := ":exec", text := "SELECT 1", filename := "ping.sql" }
    let find : QuerySpec := { name := "Find", command := ":rows", text := "SELECT …" }
    let nameless : QuerySpec :=
      { name := "", command := ":exec", text := "SELECT …", filename := "find.sql" }
    let mixed : Settings := { package := .pgxV4, chosenDriver := some .libPq }
    (∃ g a f failure, ofSettings {} = .ok g ∧ g.build [ping] = .ok a ∧
      g.build ([ping] ++ [ping]) = .ok (a ++ a) ∧ g.generate (a ++ a) = .ok (f ++ f) ∧
      g.build ([ping, find] ++ [nameless]) = .error failure ∧
      failure.message = "<unknown>: invalid statement: unknown command `:rows`") ∧
    Request.fragments ⟨mixed, [nameless]⟩ =
      .error (.refused (SettingsFault.driverMismatch .libPq .pgxV4).failure) := by
  intro ping find nameless mixed
  constructor
  · obtain ⟨-, -, valid⟩ := runs_append {}
    obtain ⟨appends, stops, -, -⟩ := valid ⟨{}, .postgresql⟩ rfl
    obtain ⟨a, built⟩ : ∃ a, Generator.build ⟨{}, .postgresql⟩ [ping] = .ok a := ⟨_, rfl⟩
    obtain ⟨failure, stopped⟩ :
        ∃ failure, Generator.build ⟨{}, .postgresql⟩ [ping, find] = .error failure := ⟨_, rfl⟩
    obtain ⟨twice, f, f', rendered, again, together⟩ := appends [ping] [ping] a a built built
    cases rendered.symm.trans again
    refine ⟨⟨{}, .postgresql⟩, a, f, failure, rfl, built, twice, together,
      stops [ping, find] failure stopped [nameless], ?_⟩
    cases stopped
    decide
  · obtain ⟨-, invalid, -⟩ := runs_append mixed
    exact invalid _ rfl [nameless]

end QueryBinding
