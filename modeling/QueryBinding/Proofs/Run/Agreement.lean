import QueryBinding.Proofs.Query.Fields
import QueryBinding.Proofs.Query.Statement
import QueryBinding.Proofs.Run.Sequence

/-! # What a run reads of its settings

Some settings decide what statements are made, and others how statements are rendered. A statement
remembers none of those it is rendered by. Main statement: `settings_kept_apart`, with the settings
that each of the two reads, and no more than these. -/

namespace QueryBinding

theorem Driver.dialect_eq_iff {d d' : Driver} :
    d.dialect = d'.dialect ↔ (d = .mysql ↔ d' = .mysql) := by
  cases d <;> cases d' <;> decide

theorem Driver.arrays_eq_iff {d d' : Driver} : d.arrays = d'.arrays ↔ d.isPgx = d'.isPgx := by
  simp [arrays]

namespace Settings

variable {s s' : Settings}

theorem exceedsLimit_iff {count : Nat} :
    s.exceedsLimit count = true ↔ ∃ limit, s.parameterLimit = some limit ∧ limit.toNat < count := by
  unfold exceedsLimit
  cases s.parameterLimit <;> simp

theorem exceedsLimit_zero : s.exceedsLimit 0 = false := by
  simp [← Bool.not_eq_true, exceedsLimit_iff]

theorem exceedsLimit_one (single : s.parameterLimit ≠ some 0) : s.exceedsLimit 1 = false := by
  rw [← Bool.not_eq_true, exceedsLimit_iff]
  rintro ⟨limit, chosen, below⟩
  have zero : limit = 0 := UInt64.toNat_inj.mp (Nat.lt_one_iff.mp below)
  exact single (chosen.trans (congrArg some zero))

theorem limit_of_exceedsLimit (same : ∀ count, s.exceedsLimit count = s'.exceedsLimit count)
    {limit : UInt64} (chosen : s.parameterLimit = some limit) : s'.parameterLimit = some limit := by
  have beyond : s'.exceedsLimit (limit.toNat + 1) = true := by
    rw [← same, exceedsLimit_iff]
    exact ⟨limit, chosen, Nat.lt_succ_self _⟩
  obtain ⟨other, chosen', le⟩ := exceedsLimit_iff.mp beyond
  have beyond' : s.exceedsLimit (other.toNat + 1) = true := by
    rw [same, exceedsLimit_iff]
    exact ⟨other, chosen', Nat.lt_succ_self _⟩
  obtain ⟨again, chosen'', ge⟩ := exceedsLimit_iff.mp beyond'
  cases chosen.symm.trans chosen''
  have equal : other = limit := UInt64.toNat_inj.mp (by omega)
  rw [chosen', equal]

theorem parameterLimit_eq_of_exceedsLimit
    (same : ∀ count, s.exceedsLimit count = s'.exceedsLimit count) :
    s.parameterLimit = s'.parameterLimit := by
  ext limit
  exact ⟨limit_of_exceedsLimit same, limit_of_exceedsLimit fun count => (same count).symm⟩

end Settings

namespace QuerySpec

variable {s s' : Settings} (q : QuerySpec) (arrays : ArraySupport) (fields : List Field)

/-- Parameters are passed as a struct if there are more of them than the limit, and only then. -/
theorem asStruct_paramsBinding :
    (q.paramsBinding s arrays fields).asStruct = s.exceedsLimit fields.length := by
  obtain ⟨rfl, bound⟩ | ⟨f, rfl, allowed, bound⟩ | ⟨-, bound⟩ :=
    q.cases_paramsBinding s arrays fields
  · simp [bound, Settings.exceedsLimit_zero]
  · simp [bound, Settings.exceedsLimit_one allowed]
  · simp [bound]

theorem paramsBinding_congr (limit : s.parameterLimit = s'.parameterLimit)
    (pointer : s.paramsByPointer = s'.paramsByPointer) :
    q.paramsBinding s arrays fields = q.paramsBinding s' arrays fields := by
  cases fields <;> simp only [paramsBinding, Settings.exceedsLimit, limit, pointer]

theorem resultBinding_congr (pointer : s.resultsByPointer = s'.resultsByPointer) :
    q.resultBinding s arrays fields = q.resultBinding s' arrays fields := by
  cases fields <;> simp only [resultBinding, pointer]

end QuerySpec

def probeSpec : FieldSpec := { name := some "A", type := "T" }

/-- A query with this many parameters, and as many columns. -/
def probeQuery (width : Nat) : QuerySpec where
  name := "Probe"
  command := Command.one.tag
  text := ""
  params := .replicate width probeSpec
  columns := .replicate width probeSpec

/-- A statement whose row may lack a table, and that inserts into another. -/
def probeStatement : Statement where
  command := .copyFrom
  comments := []
  methodName := "Probe"
  fieldName := "probeStmt"
  constantName := "probe"
  sql := ""
  sourceName := ""
  params := .ofNothing Driver.libPq.arrays
  result := .ofRecord rowVariable ⟨"ProbeRow", [.ofEmbed "E" (.named "E") probeEmbed]⟩
    Driver.libPq.arrays
  table := some (.ofName "t")
where
  probeColumn : Column := { name := "A", type := .named "T" }
  probeEmbed : Embed := ⟨[probeColumn], [probeColumn], by simp, by simp⟩

theorem scratchLines_probeStatement :
    Function.Injective fun separate : Bool =>
      if separate then probeStatement.result.scratchLines else [] := by
  intro separate separate'
  cases separate <;> cases separate' <;> decide

theorem tableText_probeStatement : Function.Injective probeStatement.tableText := by
  intro dialect dialect'
  cases dialect <;> cases dialect' <;> decide

theorem buildAll_probeSpec (width : Nat) :
    FieldSpec.buildAll (.replicate width probeSpec) =
      .ok (.replicate width (probeSpec.plainField "A")) := by
  rw [FieldSpec.buildAll_eq_ok_iff]
  induction width with
  | zero => exact .nil
  | succ width ih =>
      have first : probeSpec.build = .ok (probeSpec.plainField "A") := FieldSpec.build_plain rfl
      exact .cons first ih

namespace Generator

variable {s s' : Settings} {d d' : Driver} {g g' : Generator}

theorem ofSettings_of_driver (found : s.driver = .ok d) : ofSettings s = .ok ⟨s, d.dialect⟩ := by
  rw [ofSettings, found]
  rfl

/-- What becomes of a query does not depend on the settings that statements are rendered by. -/
theorem build_congr (found : s.driver = .ok d) (found' : s'.driver = .ok d')
    (limit : s.parameterLimit = s'.parameterLimit)
    (params : s.paramsByPointer = s'.paramsByPointer)
    (results : s.resultsByPointer = s'.resultsByPointer) (pgx : d.isPgx = d'.isPgx) :
    build ⟨s, d.dialect⟩ = build ⟨s', d'.dialect⟩ := by
  have arrays : s.arrays = s'.arrays := by
    rw [Settings.arrays, Settings.arrays, found, found']
    exact congrArg Except.ok (Driver.arrays_eq_iff.mpr pgx)
  have statement : Statement.ofQuery s = Statement.ofQuery s' := by
    funext q
    simp only [Statement.ofQuery, arrays, q.paramsBinding_congr _ _ limit params,
      q.resultBinding_congr _ _ results]
  funext queries
  unfold build Generator.statement
  rw [statement]

theorem build_probeQuery (found : s.driver = .ok d) (width : Nat) :
    build ⟨s, d.dialect⟩ [probeQuery width] =
      .ok [(probeQuery width).statementOf s d.arrays .one none
        (.replicate width (probeSpec.plainField "A"))
        (.replicate width (probeSpec.plainField "A"))] := by
  have named : "Probe" ≠ "" := by decide
  have accepted : Statement.ofQuery s (probeQuery width) = .ok _ :=
    Statement.ofQuery_eq_ok_iff.mpr ⟨d, .one, none, _, _, found, rfl, named, rfl,
      buildAll_probeSpec width, buildAll_probeSpec width, rfl⟩
  rw [build, mapM_eq_ok_iff]
  exact .cons (statement_eq_ok_iff.mpr accepted) .nil

theorem agree_of_build (found : s.driver = .ok d) (found' : s'.driver = .ok d')
    (same : ∀ queries, build ⟨s, d.dialect⟩ queries = build ⟨s', d'.dialect⟩ queries) :
    s.parameterLimit = s'.parameterLimit ∧ s.paramsByPointer = s'.paramsByPointer ∧
      s.resultsByPointer = s'.resultsByPointer ∧ d.isPgx = d'.isPgx := by
  -- Lists of every length tell the limits apart. The pointers show on records alone, so on a pair.
  have shown (width : Nat) := same [probeQuery width]
  simp only [build_probeQuery found, build_probeQuery found', Except.ok.injEq, List.cons.injEq,
    and_true] at shown
  have exceeds : ∀ count, s.exceedsLimit count = s'.exceedsLimit count := by
    intro count
    have asStruct := congrArg (·.params.asStruct) (shown count)
    simpa only [QuerySpec.statementOf, QuerySpec.asStruct_paramsBinding, List.length_replicate]
      using asStruct
  have pair := shown 2
  refine ⟨Settings.parameterLimit_eq_of_exceedsLimit exceeds, ?_, ?_, ?_⟩
  · exact congrArg (·.params.byPointer) pair
  · exact congrArg (·.result.byPointer) pair
  · exact congrArg (·.params.arrays.native) pair

theorem generate_congr (embeds : g.settings.nullableEmbeds = g'.settings.nullableEmbeds)
    (dialect : g.dialect = g'.dialect) : g.generate = g'.generate := by
  funext statements
  unfold generate fragments
  rw [embeds, dialect]

theorem agree_of_generate {fragments : List Fragments}
    (rendered : g.generate [probeStatement] = .ok fragments)
    (rendered' : g'.generate [probeStatement] = .ok fragments) :
    g.settings.nullableEmbeds = g'.settings.nullableEmbeds ∧ g.dialect = g'.dialect := by
  simp only [generate, mapM_eq_ok_iff, List.forall₂_cons_left_iff, List.forall₂_nil_left_iff]
    at rendered rendered'
  obtain ⟨f, rest, here, rfl, rfl⟩ := rendered
  obtain ⟨_, _, there, -, ⟨⟩⟩ := rendered'
  have told := Statement.rendered_of_fragments here
  have told' := Statement.rendered_of_fragments there
  exact ⟨scratchLines_probeStatement (told.scratchLines.symm.trans told'.scratchLines),
    tableText_probeStatement (told.table.symm.trans told'.table)⟩

end Generator

/-- Settings that statements are made by, and those they are rendered by, are kept apart. Runs make
the same of all queries, statements or failures, if they have the same parameter limit and pointers
and both or neither have a pgx driver. They render all statements alike, whoever made them, if both
or neither hold nullable embeds in `sql.Null[T]` and have the MySQL driver. -/
theorem Generator.settings_kept_apart {s s' : Settings} {d d' : Driver}
    (found : s.driver = .ok d) (found' : s'.driver = .ok d') :
    ∃ g g', ofSettings s = .ok g ∧ ofSettings s' = .ok g' ∧
      ((∀ queries, g.build queries = g'.build queries) ↔
        s.parameterLimit = s'.parameterLimit ∧ s.paramsByPointer = s'.paramsByPointer ∧
        s.resultsByPointer = s'.resultsByPointer ∧ d.isPgx = d'.isPgx) ∧
      ((∀ statements, ∃ fragments,
          g.generate statements = .ok fragments ∧ g'.generate statements = .ok fragments) ↔
        s.nullableEmbeds = s'.nullableEmbeds ∧ (d = .mysql ↔ d' = .mysql)) := by
  refine ⟨⟨s, d.dialect⟩, ⟨s', d'.dialect⟩, ofSettings_of_driver found, ofSettings_of_driver found',
    ⟨agree_of_build found found', ?_⟩, ?_⟩
  · rintro ⟨limit, params, results, pgx⟩ queries
    rw [build_congr found found' limit params results pgx]
  · rw [← Driver.dialect_eq_iff]
    constructor
    · intro same
      obtain ⟨fragments, rendered, rendered'⟩ := same [probeStatement]
      exact agree_of_generate rendered rendered'
    · rintro ⟨embeds, dialect⟩ statements
      obtain ⟨fragments, rendered⟩ := exists_generate ⟨s, d.dialect⟩ statements
      have same : generate ⟨s, d.dialect⟩ = generate ⟨s', d'.dialect⟩ :=
        generate_congr embeds dialect
      exact ⟨fragments, rendered, same ▸ rendered⟩

/-- With `database/sql`, the MySQL driver makes the statements that lib/pq makes, and renders them
otherwise; pgx renders as lib/pq does, and makes other statements. -/
theorem Generator.settings_kept_apart_drivers :
    let mysql : Settings := { chosenDriver := some .mysql, nullableEmbeds := true }
    let pgx : Settings := { package := .pgxV5 }
    ∃ g g' g'', ofSettings {} = .ok g ∧ ofSettings mysql = .ok g' ∧ ofSettings pgx = .ok g'' ∧
      (∀ queries, g.build queries = g'.build queries) ∧
      (¬ ∀ statements, ∃ fragments,
        g.generate statements = .ok fragments ∧ g'.generate statements = .ok fragments) ∧
      (¬ ∀ queries, g.build queries = g''.build queries) ∧
      ∀ statements, ∃ fragments,
        g.generate statements = .ok fragments ∧ g''.generate statements = .ok fragments := by
  intro mysql pgx
  have libPq : Settings.driver {} = .ok .libPq := rfl
  have overMysql : mysql.driver = .ok .mysql := rfl
  have overPgx : pgx.driver = .ok .pgxV5 := rfl
  obtain ⟨g, g', made, made', builds, renders⟩ := settings_kept_apart libPq overMysql
  obtain ⟨_, g'', again, made'', builds', renders'⟩ := settings_kept_apart libPq overPgx
  cases made.symm.trans again
  refine ⟨g, g', g'', made, made', made'', ?_, ?_, ?_, ?_⟩
  · exact builds.mpr (by decide)
  · rw [renders]
    decide
  · rw [builds']
    decide
  · exact renders'.mpr (by decide)

end QueryBinding
