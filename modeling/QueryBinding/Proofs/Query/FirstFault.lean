import QueryBinding.Proofs.Query.Fields
import QueryBinding.Proofs.Query.Shortcuts

/-! # Why a query is refused

The checks on a query, in order, and what each of them finds for itself. Main statement:
`first_failing_check`, that a query is refused with the finding of the first check that fails, and
that nothing else refuses one. -/

namespace QueryBinding

/-- A check on a query; each parameter and each column is one. -/
inductive Check where
  | settings
  | command
  | name
  | target
  | param (spec : FieldSpec)
  | column (spec : FieldSpec)

/-- The checks on a query, in order. -/
def QuerySpec.checks (q : QuerySpec) : List Check :=
  .settings :: .command :: .name :: .target :: (q.params.map .param ++ q.columns.map .column)

namespace Check

variable (s : Settings) (q : QuerySpec)

/-- What a check finds wrong, before it is said where. -/
def finding : Check → Option Failure
  | settings => faultIn s.driver
  | command =>
    if Command.ofTag? q.command = none then some (StatementFault.unknownCommand q.command).failure
    else none
  | name => if q.name = "" then some StatementFault.namelessQuery.failure else none
  | target =>
    if q.command = Command.copyFrom.tag ∧ q.target = none then
      some (StatementFault.missingTarget q.name).failure
    else none
  | param spec => faultIn spec.build
  | column spec => faultIn spec.build

/-- The finding as the query is refused with it. -/
def told (own : Failure) : Check → Failure
  | param _ => own.noted ("parameters of " ++ q.name)
  | column _ => own.noted ("result of " ++ q.name)
  | _ => own

/-- How a refusal reads: a remark about the place and then the field's own message, for a parameter
or a column; and the finding itself, with its own kind, for the rest. -/
def Tells (own refusal : Failure) : Check → Prop
  | param _ =>
    refusal.cause = .remark ("parameters of " ++ q.name) ∧ refusal.under = own.causes ∧
      refusal.message = "parameters of " ++ q.name ++ ": " ++ own.message
  | column _ =>
    refusal.cause = .remark ("result of " ++ q.name) ∧ refusal.under = own.causes ∧
      refusal.message = "result of " ++ q.name ++ ": " ++ own.message
  | settings => refusal = own ∧ own.isInvalidSettings = true
  | _ => refusal = own ∧ own.isInvalidStatement = true

def refusal? (check : Check) : Option Failure :=
  (check.finding s q).map fun own => check.told q own

end Check

theorem Settings.isInvalidSettings_of_driver {s : Settings} {failure : Failure}
    (h : s.driver = .error failure) : failure.isInvalidSettings = true := by
  unfold driver at h
  split at h
  · cases h
  · split at h
    · cases h
      rfl
    · cases h

theorem findSome?_cons_or {α β : Type} (f : α → Option β) (x : α) (xs : List α) :
    (x :: xs).findSome? f = (f x).or (xs.findSome? f) := by
  rw [List.findSome?_cons]
  cases f x <;> rfl

namespace QuerySpec

variable (s : Settings) (q : QuerySpec)

theorem faultIn_arrays : faultIn s.arrays = Check.settings.refusal? s q := by
  rw [Settings.arrays, faultIn_map, Check.refusal?, Check.finding]
  exact Option.map_id'.symm

theorem faultIn_knownCommand : faultIn q.knownCommand = Check.command.refusal? s q := by
  rw [knownCommand, Check.refusal?, Check.finding]
  cases Command.ofTag? q.command <;> rfl

theorem faultIn_checkName : faultIn q.checkName = Check.name.refusal? s q := by
  rw [checkName, Check.refusal?, Check.finding]
  split <;> rfl

theorem faultIn_table {command : Command} (known : q.knownCommand = .ok command) :
    faultIn (q.table command) = Check.target.refusal? s q := by
  have tagged := ofTag?_of_knownCommand known
  simp only [Check.refusal?, Check.finding, ← Command.eq_copyFrom_iff tagged]
  cases command <;> cases target : q.target <;> simp [table, target, faultIn, Check.told]

theorem faultIn_paramFields :
    faultIn q.paramFields = (q.params.map Check.param).findSome? (·.refusal? s q) := by
  rw [paramFields, faultIn_mapError, FieldSpec.buildAll_eq_mapM, faultIn_mapM fun _ _ => rfl,
    List.findSome?_map, List.map_findSome?]
  rfl

theorem faultIn_columnFields :
    faultIn q.columnFields = (q.columns.map Check.column).findSome? (·.refusal? s q) := by
  rw [columnFields, faultIn_mapError, FieldSpec.buildAll_eq_mapM, faultIn_mapM fun _ _ => rfl,
    List.findSome?_map, List.map_findSome?]
  rfl

end QuerySpec

/-- A query is refused with what the first failing check has to tell. -/
theorem Statement.faultIn_ofQuery (s : Settings) (q : QuerySpec) :
    faultIn (ofQuery s q) = q.checks.findSome? (·.refusal? s q) := by
  rw [QuerySpec.checks, findSome?_cons_or, findSome?_cons_or, findSome?_cons_or, findSome?_cons_or,
    List.findSome?_append, ← q.faultIn_arrays s, ← q.faultIn_knownCommand s, ← q.faultIn_checkName s,
    ← q.faultIn_paramFields s, ← q.faultIn_columnFields s, ofQuery]
  refine faultIn_bind fun arrays _ => faultIn_bind fun command known => faultIn_bind fun _ _ => ?_
  rw [← q.faultIn_table s known]
  refine faultIn_bind fun table _ => faultIn_bind fun params _ => ?_
  exact faultIn_bind_ok _ _

namespace Check

variable {s : Settings} {q : QuerySpec} {check : Check} {own refusal : Failure}

theorem refusal?_eq_none_iff : check.refusal? s q = none ↔ check.finding s q = none :=
  Option.map_eq_none_iff

theorem tells_told (found : check.finding s q = some own) : check.Tells q own (check.told q own) := by
  cases check with
  | settings => exact ⟨rfl, Settings.isInvalidSettings_of_driver (faultIn_eq_some_iff.mp found)⟩
  | command | name | target =>
      rw [finding] at found
      split at found <;> cases found
      exact ⟨rfl, rfl⟩
  | param spec | column spec => exact ⟨rfl, rfl, own.message_noted _⟩

theorem eq_told (tells : check.Tells q own refusal) : refusal = check.told q own := by
  obtain ⟨cause, under⟩ := refusal
  cases check with
  | param spec | column spec =>
      obtain ⟨rfl, rfl, -⟩ := tells
      rfl
  | _ => exact tells.1

end Check

/-- A query is accepted if every check passes. Otherwise it is refused with the finding of the first
that fails, which for a field says where the field stands. The shortcuts for single fields refuse
nothing. -/
theorem Statement.first_failing_check (s : Settings) (q : QuerySpec) :
    ((∃ st, ofQuery s q = .ok st) ↔
      (∃ driver, s.driver = .ok driver) ∧ (∃ command, Command.ofTag? q.command = some command) ∧
      q.name ≠ "" ∧ (q.command = Command.copyFrom.tag → q.target ≠ none) ∧
      (∀ spec ∈ q.params, ∃ f, spec.build = .ok f) ∧
      ∀ spec ∈ q.columns, ∃ f, spec.build = .ok f) ∧
    (∀ refusal, ofQuery s q = .error refusal ↔ ∃ before check after own,
      q.checks = before ++ check :: after ∧ (∀ earlier ∈ before, earlier.finding s q = none) ∧
      check.finding s q = some own ∧ check.Tells q own refusal) ∧
    ofQueryByCount s q = ofQuery s q := by
  refine ⟨?_, fun refusal => ?_, ofQueryByCount_eq s q⟩
  · rw [← faultIn_eq_none_iff, faultIn_ofQuery, List.findSome?_eq_none_iff, QuerySpec.checks]
    simp only [Check.refusal?_eq_none_iff, List.forall_mem_cons, List.forall_mem_append,
      List.forall_mem_map, Check.finding, faultIn_eq_none_iff, ite_eq_right_iff, reduceCtorEq,
      imp_false, not_and, ← Option.ne_none_iff_exists', ne_eq]
  · rw [← faultIn_eq_some_iff, faultIn_ofQuery, List.findSome?_eq_some_iff]
    constructor
    · rintro ⟨before, check, after, split, told, passed⟩
      obtain ⟨own, found, rfl⟩ := Option.map_eq_some_iff.mp told
      exact ⟨before, check, after, own, split,
        fun earlier member => Check.refusal?_eq_none_iff.mp (passed earlier member), found,
        Check.tells_told found⟩
    · rintro ⟨before, check, after, own, split, passed, found, tells⟩
      refine ⟨before, check, after, split, ?_,
        fun earlier member => Check.refusal?_eq_none_iff.mpr (passed earlier member)⟩
      rw [Check.eq_told tells]
      exact Option.map_eq_some_iff.mpr ⟨own, found, rfl⟩

/-- A bulk insert that is accepted; with a parameter and a column that have no names; and without a
target as well. -/
theorem Statement.first_failing_check_bulk :
    let q : QuerySpec :=
      { name := "AddBooks", command := ":copyfrom", text := "INSERT …", target := some {}
        params := [{ dbName := "id", type := "int64" }] }
    let nameless : QuerySpec :=
      { q with
        params := [{ dbName := "id", type := "int64" }, { type := "string" }]
        columns := [{ type := "bool" }] }
    (∃ st, ofQuery {} q = .ok st) ∧
    (∃ refusal, ofQuery {} nameless = .error refusal ∧ refusal.message =
      "parameters of AddBooks: invalid statement: field of type `string` has neither a name nor a " ++
        "column name") ∧
    ofQuery {} { nameless with target := none } =
      .error (StatementFault.missingTarget "AddBooks").failure := by
  intro q nameless
  refine ⟨?_, ?_, ?_⟩
  · obtain ⟨accepted, -, -⟩ := first_failing_check {} q
    refine accepted.mpr ⟨⟨_, rfl⟩, ⟨.copyFrom, by decide⟩, by decide, by decide, ?_, nofun⟩
    exact List.forall_mem_singleton.mpr ⟨_, rfl⟩
  · obtain ⟨-, refused, -⟩ := first_failing_check {} nameless
    let own : Failure := (StatementFault.namelessField "string").failure
    let refusal := own.noted "parameters of AddBooks"
    have message : refusal.message = "parameters of AddBooks" ++ ": " ++ own.message :=
      own.message_noted _
    refine ⟨refusal, (refused refusal).mpr ?_, message.trans (by decide)⟩
    exact ⟨[.settings, .command, .name, .target, .param _], .param _, [.column _], own, rfl,
      by decide, rfl, rfl, rfl, message⟩
  · obtain ⟨-, refused, -⟩ := first_failing_check {} { nameless with target := none }
    exact (refused _).mpr ⟨[.settings, .command, .name], .target, _, _, rfl, by decide, rfl, rfl, rfl⟩

end QueryBinding
