import QueryBinding.Proofs.GoType.Record
import QueryBinding.Proofs.Query.WellFormed
import QueryBinding.Proofs.Query.Statement
import QueryBinding.Proofs.Row.Alike
import QueryBinding.Proofs.Row.Slot

/-! # Types written inside `sql.Null`

The slot of a nullable embed is wrapped or not as the run says, and a description may have wrapped
its type already. One wrapper is taken off before the slot is typed, so that a wrapper in the
description is lost. Main statement: `wrapped_alike_iff`, that it makes no difference to what is
rendered, unless there already was one. -/

namespace QueryBinding

/-- The description with its type written inside `sql.Null`. -/
def FieldSpec.wrapped (s : FieldSpec) : FieldSpec :=
  { s with type := "sql.Null[" ++ s.type ++ "]" }

def Field.wrapped (f : Field) : Field := { f with type := .null f.type }

namespace FieldSpec

theorem goName_wrapped {s : FieldSpec} {name : String} (named : s.goName = .ok name) :
    s.wrapped.goName = .ok name := by
  rw [goName_eq] at named ⊢
  split at named
  · next given =>
      have given' : s.wrapped.HasName := given
      rw [if_pos given']
      exact named
  · cases named

theorem build_wrapped {s : FieldSpec} {f : Field} {e : EmbedSpec FieldSpec}
    (built : s.build = .ok f) (embed : s.embed = some e) : s.wrapped.build = .ok f.wrapped := by
  obtain ⟨name, plain, -, -⟩ | ⟨e', name, fields, joined, joins, named, inside, checked, rfl⟩ :=
    cases_of_build built
  · cases plain.symm.trans embed
  · have joins' : s.wrapped.embed = some e' := joins
    have type : GoType.parse s.wrapped.type = .null (.parse s.type) := GoType.parse_null s.type
    rw [build_embed joins', type]
    exact bind_eq_ok_iff.mpr ⟨name, goName_wrapped named,
      bind_eq_ok_iff.mpr ⟨fields, inside, bind_eq_ok_iff.mpr ⟨joined, checked, rfl⟩⟩⟩

theorem nullableEmbed?_of_build {s : FieldSpec} {f : Field} {e : EmbedSpec FieldSpec}
    (built : s.build = .ok f) (embed : s.embed = some e) (nullable : e.nullable = true) :
    ∃ joined, f.nullableEmbed? = some joined := by
  have joins := embed_of_build built
  rw [embed] at joins
  generalize given : f.embed = embed' at joins
  cases joins with
  | @some _ joined described =>
      refine ⟨joined, Field.nullableEmbed?_eq_some_iff.mpr ⟨given, ?_⟩⟩
      rw [described.nullable, nullable]

end FieldSpec

namespace Field

variable (f : Field)

@[simp] theorem name_wrapped : f.wrapped.name = f.name := rfl

@[simp] theorem stripNull_type_wrapped : f.wrapped.type.stripNull = f.type := rfl

@[simp] theorem nullableEmbed?_wrapped : f.wrapped.nullableEmbed? = f.nullableEmbed? := rfl

@[simp] theorem scratchName_wrapped (owner : String) :
    f.wrapped.scratchName owner = f.scratchName owner := rfl

variable {f}

/-- Of the types of an embed only the one without its wrapper is ever written. -/
theorem alike_wrapped {e : Embed} (nullable : f.nullableEmbed? = some e)
    (bare : f.type.stripNull = f.type) : f.Alike f.wrapped := by
  have nullable' : f.wrapped.nullableEmbed? = some e := by simp [nullable]
  refine ⟨by simp, by simp, fun separate => ?_, fun arrays owner separate => ?_,
    fun owner rule => ?_⟩
  · simp [slotType_of_nullableEmbed nullable, slotType_of_nullableEmbed nullable', bare]
  · simp [ArraySupport.fieldDestinations_of_nullableEmbed nullable,
      ArraySupport.fieldDestinations_of_nullableEmbed nullable']
  · simp [presenceBlock_eq nullable, presenceBlock_eq nullable', bare]

end Field

namespace QuerySpec

variable {q : QuerySpec} {s : Settings} {arrays : ArraySupport}
variable {earlier later : List Field} {f : Field} {e : Embed}

theorem resultBinding_of_nullableEmbed (nullable : f.nullableEmbed? = some e) :
    q.resultBinding s arrays (earlier ++ f :: later) =
      ⟨.record rowVariable ⟨q.name ++ "Row", earlier ++ f :: later⟩, true, s.resultsByPointer,
        arrays⟩ := by
  obtain ⟨none, -⟩ | ⟨g, alone, plain, -⟩ | ⟨-, -, bound⟩ :=
    q.cases_resultBinding s arrays (earlier ++ f :: later)
  · simp at none
  · have same : f ∈ [g] := by simp [← alone]
    cases List.mem_singleton.mp same
    cases plain.symm.trans (Field.nullableEmbed?_eq_some_iff.mp nullable).1
  · exact bound

theorem givenAlike_wrapped (nullable : f.nullableEmbed? = some e)
    (bare : f.type.stripNull = f.type) :
    (q.resultBinding s arrays (earlier ++ f :: later)).GivenAlike
      (q.resultBinding s arrays (earlier ++ f.wrapped :: later)) := by
  have nullable' : f.wrapped.nullableEmbed? = some e := nullable
  rw [resultBinding_of_nullableEmbed nullable, resultBinding_of_nullableEmbed nullable']
  apply Binding.givenAlike_of_alike
  exact List.rel_append (List.forall₂_same.mpr fun other _ => .refl other)
    (.cons (Field.alike_wrapped nullable bare) (List.forall₂_same.mpr fun other _ => .refl other))

/-- The lines about a nullable embed tell its type, up to one wrapper. -/
theorem bare_of_presenceLines (nullable : f.nullableEmbed? = some e) {rule : PresenceRule}
    (same : (q.resultBinding s arrays (earlier ++ f :: later)).presenceLines rule =
      (q.resultBinding s arrays (earlier ++ f.wrapped :: later)).presenceLines rule) :
    f.type.stripNull = f.type := by
  have nullable' : f.wrapped.nullableEmbed? = some e := nullable
  rw [resultBinding_of_nullableEmbed nullable, resultBinding_of_nullableEmbed nullable',
    Binding.presenceLines_record, Binding.presenceLines_record] at same
  simp only [List.flatMap_append, List.flatMap_cons, List.append_cancel_left_eq,
    List.append_cancel_right_eq] at same
  have literals := congrArg (·[2]?) same
  rw [(Field.presenceBlock_of_nullableEmbed nullable).assigned,
    (Field.presenceBlock_of_nullableEmbed nullable').assigned] at literals
  have texts := (String.append_left_inj _).mp (Option.some.inj literals)
  exact GoType.stripNull_eq_self_of_text ((String.append_right_inj _).mp texts)

end QuerySpec

/-- A nullable embed whose type is written inside `sql.Null` is accepted as it is without, and the
two statements have the same fragments in every run, exactly if the type is not inside `sql.Null`
already. -/
theorem Statement.wrapped_alike_iff {s : Settings} {q : QuerySpec} {st : Statement}
    {before after : List FieldSpec} {spec : FieldSpec} {e : EmbedSpec FieldSpec}
    (accepted : ofQuery s q = .ok st) (columns : q.columns = before ++ spec :: after)
    (embed : spec.embed = some e) (nullable : e.nullable = true) :
    ∃ st', ofQuery s { q with columns := before ++ spec.wrapped :: after } = .ok st' ∧
      ((∀ g : Generator, ∃ f, g.fragments st = .ok f ∧ g.fragments st' = .ok f) ↔
        ∀ inner : String, spec.type ≠ "sql.Null[" ++ inner ++ "]") := by
  obtain ⟨driver, command, table, params, fields, found, known, named, target, given, taken,
    rfl⟩ := ofQuery_eq_ok_iff.mp accepted
  rw [columns, FieldSpec.buildAll_append_cons_iff] at taken
  obtain ⟨earlier, f, later, first, built, last, rfl⟩ := taken
  obtain ⟨joined, absentable⟩ := FieldSpec.nullableEmbed?_of_build built embed nullable
  have taken' : FieldSpec.buildAll (before ++ spec.wrapped :: after) =
      .ok (earlier ++ f.wrapped :: later) :=
    FieldSpec.buildAll_append_cons_iff.mpr
      ⟨earlier, f.wrapped, later, first, FieldSpec.build_wrapped built embed, last, rfl⟩
  refine ⟨q.statementOf s driver.arrays command table params (earlier ++ f.wrapped :: later),
    ofQuery_eq_ok_iff.mpr ⟨driver, command, table, params, _, found, known, named, target, given,
      taken', rfl⟩, ?_⟩
  rw [← GoType.stripNull_asRecord_parse_iff, ← FieldSpec.type_of_embed built embed]
  constructor
  · intro same
    obtain ⟨shown, rendered, rendered'⟩ := same ⟨{ nullableEmbeds := true }, .postgresql⟩
    apply QuerySpec.bare_of_presenceLines absentable
    exact (rendered_of_fragments rendered).presenceLines.symm.trans
      (rendered_of_fragments rendered').presenceLines
  · intro bare g
    have alike : (q.resultBinding s driver.arrays (earlier ++ f :: later)).GivenAlike
        (q.resultBinding s driver.arrays (earlier ++ f.wrapped :: later)) :=
      QuerySpec.givenAlike_wrapped absentable bare
    have same := fragments_congr (.refl (q.paramsBinding s driver.arrays params)) alike
      (q.statementOf s driver.arrays command table params (earlier ++ f :: later))
      g.settings.nullableEmbeds g.dialect
    obtain ⟨shown, rendered⟩ := exists_fragments _ g.settings.nullableEmbeds g.dialect
    exact ⟨shown, rendered, same.symm.trans rendered⟩

/-- A list, a scalar and a wrapper without its last bracket are no wrapped types, and neither is a
list of wrapped ones. A wrapped type is told apart from one that is wrapped twice. -/
theorem Statement.wrapped_alike_iff_texts :
    let title : FieldSpec := { dbName := "title", type := "string" }
    let author (type : String) : FieldSpec :=
      { name := some "Author", type
        embed := some ⟨[{ dbName := "id", type := "int64" }], true, ["Id"]⟩ }
    let q (type : String) : QuerySpec :=
      { name := "GetBook", command := ":one", text := "SELECT …", columns := [title, author type] }
    let bare := ["[]Author", "int64", "sql.Null[Author", "[]sql.Null[Author]"]
    (∀ type ∈ bare, ∃ st st', ofQuery {} (q type) = .ok st ∧
      ofQuery {} (q ("sql.Null[" ++ type ++ "]")) = .ok st' ∧
      ∀ g : Generator, ∃ f, g.fragments st = .ok f ∧ g.fragments st' = .ok f) ∧
    ∃ st st', ofQuery {} (q "sql.Null[Author]") = .ok st ∧
      ofQuery {} (q "sql.Null[sql.Null[Author]]") = .ok st' ∧
      ¬ ∀ g : Generator, ∃ f, g.fragments st = .ok f ∧ g.fragments st' = .ok f := by
  intro title author q bare
  have told (type : String) {st : Statement} (made : ofQuery {} (q type) = .ok st) :
      ∃ st', ofQuery {} (q ("sql.Null[" ++ type ++ "]")) = .ok st' ∧
        ((∀ g : Generator, ∃ f, g.fragments st = .ok f ∧ g.fragments st' = .ok f) ↔
          ∀ inner : String, type ≠ "sql.Null[" ++ inner ++ "]") :=
    @wrapped_alike_iff {} (q type) st [title] [] (author type) _ made rfl rfl rfl
  constructor
  · have accepted : ∀ type ∈ bare, (ofQuery {} (q type)).isOk = true := by decide +kernel
    have absent : ∀ type ∈ bare, GoType.nullArgument? type.toList = none := by decide +kernel
    intro type member
    obtain ⟨st, made⟩ := exists_of_isOk (accepted type member)
    obtain ⟨st', made', same⟩ := told type made
    have unwrapped : ∀ inner : String, type ≠ "sql.Null[" ++ inner ++ "]" := by
      rintro inner rfl
      have given := absent _ member
      rw [String.toList_append, String.toList_append] at given
      exact GoType.nullArgument?_eq_none_iff.mp given inner.toList rfl
    exact ⟨st, st', made, made', same.mpr unwrapped⟩
  · obtain ⟨st, made⟩ := exists_of_isOk
      (show (ofQuery {} (q "sql.Null[Author]")).isOk = true by decide +kernel)
    obtain ⟨st', made', same⟩ := told "sql.Null[Author]" made
    exact ⟨st, st', made, made', fun all => same.mp all "Author" rfl⟩

end QueryBinding
