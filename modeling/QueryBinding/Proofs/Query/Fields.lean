import QueryBinding.Request.Field
import QueryBinding.Proofs.Query.Checks
import QueryBinding.Proofs.Row.Sites

/-! # Descriptions and their fields

What is known of a description that was accepted: the field it gives, and, column for column, the
descriptions that the field's columns come from. -/

namespace QueryBinding

theorem embedColumns_eq_ok {embed : String} {fields : List Field}
    {columns : {columns : List Column // columns ≠ []}}
    (h : embedColumns embed fields = .ok columns) :
    columns.val = fields.map (·.toColumn) ∧ ∀ f ∈ fields, f.isEmbed = false := by
  unfold embedColumns at h
  split at h
  · cases h
  · split at h
    · cases h
    · next none_nested =>
        cases h
        refine ⟨rfl, fun f member => ?_⟩
        simpa only [Bool.not_eq_true] using List.find?_eq_none.mp none_nested f member

/-- The embed that a description's embed stands for, once its fields are built. -/
def EmbedSpec.ofFields {φ : Type} (e : EmbedSpec φ) (name : String) (fields : List Field) :
    Except Failure Embed :=
  if e.nullable then Embed.absentable name fields e.primaryKeys else Embed.present name fields

theorem EmbedSpec.ofFields_eq_ok {φ : Type} {e : EmbedSpec φ} {name : String}
    {fields : List Field} {embed : Embed} (h : e.ofFields name fields = .ok embed) :
    embed.columns = fields.map (·.toColumn) ∧ ∀ f ∈ fields, f.isEmbed = false := by
  unfold ofFields at h
  split at h
  · obtain ⟨columns, checked, h⟩ := bind_eq_ok_iff.mp h
    split at h
    · cases h
    · obtain ⟨found, -, same⟩ := bind_eq_ok_iff.mp h
      cases same
      exact embedColumns_eq_ok checked
  · obtain ⟨columns, checked, same⟩ := bind_eq_ok_iff.mp h
    cases same
    exact embedColumns_eq_ok checked

namespace FieldSpec

theorem build_plain {s : FieldSpec} (h : s.embed = none) :
    s.build = s.goName.map s.plainField := by
  obtain ⟨name, dbName, type, declaredName, isSlice, embed⟩ := s
  cases h
  rw [build]
  cases goName _ <;> rfl

theorem build_embed {s : FieldSpec} {e : EmbedSpec FieldSpec} (h : s.embed = some e) :
    s.build = (do
      let goName ← s.goName
      let fields ← buildAll e.fields
      let embed ← e.ofFields goName fields
      .ok (.ofEmbed goName (.parse s.type) embed)) := by
  obtain ⟨name, dbName, type, declaredName, isSlice, embed⟩ := s
  obtain ⟨fields, nullable, keys⟩ := e
  cases h
  rw [build]
  cases nullable with
  | false => rfl
  | true => rfl

/-- What an accepted description gives: its column, or the embed that is made of its fields. -/
theorem cases_of_build {s : FieldSpec} {f : Field} (h : s.build = .ok f) :
    (∃ name, s.embed = none ∧ s.goName = .ok name ∧ f = s.plainField name) ∨
    ∃ e name fields joined, s.embed = some e ∧ s.goName = .ok name ∧
      buildAll e.fields = .ok fields ∧ e.ofFields name fields = .ok joined ∧
      f = .ofEmbed name (.parse s.type) joined := by
  cases embed : s.embed with
  | none =>
      rw [build_plain embed] at h
      obtain ⟨name, named, rfl⟩ := map_eq_ok_iff.mp h
      exact .inl ⟨name, rfl, named, rfl⟩
  | some e =>
      rw [build_embed embed] at h
      obtain ⟨name, named, h⟩ := bind_eq_ok_iff.mp h
      obtain ⟨fields, built, h⟩ := bind_eq_ok_iff.mp h
      obtain ⟨joined, checked, same⟩ := bind_eq_ok_iff.mp h
      exact .inr ⟨e, name, fields, joined, rfl, named, built, checked, (Except.ok.inj same).symm⟩

theorem goName_of_build {s : FieldSpec} {f : Field} (h : s.build = .ok f) :
    s.goName = .ok f.name := by
  obtain ⟨name, -, named, rfl⟩ | ⟨e, name, fields, joined, -, named, -, -, rfl⟩ := cases_of_build h
  · exact named
  · exact named

theorem type_of_build {s : FieldSpec} {f : Field} (h : s.build = .ok f) (plain : s.embed = none) :
    f.type = .parse s.type := by
  rw [build_plain plain] at h
  obtain ⟨name, -, rfl⟩ := map_eq_ok_iff.mp h
  rfl

theorem type_of_embed {s : FieldSpec} {f : Field} {e : EmbedSpec FieldSpec}
    (built : s.build = .ok f) (embed : s.embed = some e) :
    f.type = (GoType.parse s.type).asRecord := by
  obtain ⟨name, plain, -, -⟩ | ⟨e', name, fields, joined, -, -, -, -, rfl⟩ := cases_of_build built
  · cases plain.symm.trans embed
  · rfl

theorem isEmbed_of_build {s : FieldSpec} {f : Field} (h : s.build = .ok f) :
    f.isEmbed = s.embed.isSome := by
  obtain ⟨name, plain, -, rfl⟩ | ⟨e, name, fields, joined, embed, -, -, -, rfl⟩ := cases_of_build h
  · simp [Field.isEmbed, plain]
  · simp [Field.isEmbed, embed]

theorem buildAll_eq_mapM (specs : List FieldSpec) : buildAll specs = specs.mapM build := by
  induction specs with
  | nil => simp [buildAll]
  | cons spec specs ih => simp [buildAll, ih]

theorem buildAll_eq_ok_iff {specs : List FieldSpec} {fields : List Field} :
    buildAll specs = .ok fields ↔ List.Forall₂ (fun s f => s.build = .ok f) specs fields := by
  rw [buildAll_eq_mapM, mapM_eq_ok_iff]

theorem buildAll_append_cons_iff {before after : List FieldSpec} {spec : FieldSpec}
    {fields : List Field} : buildAll (before ++ spec :: after) = .ok fields ↔
      ∃ earlier f later, buildAll before = .ok earlier ∧ spec.build = .ok f ∧
        buildAll after = .ok later ∧ fields = earlier ++ f :: later := by
  simp only [buildAll_eq_mapM, List.mapM_append, List.mapM_cons, bind_eq_ok_iff]
  constructor
  · rintro ⟨earlier, first, _, ⟨f, built, later, last, ⟨⟩⟩, ⟨⟩⟩
    exact ⟨earlier, f, later, first, built, last, rfl⟩
  · rintro ⟨earlier, f, later, first, built, last, rfl⟩
    exact ⟨earlier, first, _, ⟨f, built, later, last, rfl⟩, rfl⟩

/-- The descriptions of single columns that a description is made up of. -/
def leaves (s : FieldSpec) : List FieldSpec :=
  match s.embed with
  | none => [s]
  | some e => e.fields

/-- Whether a column is the one that a description without an embed stands for. -/
def Gives (s : FieldSpec) (c : Column) : Prop :=
  s.embed = none ∧ ∃ name, s.goName = .ok name ∧ c = (s.plainField name).toColumn

theorem gives_of_build {s : FieldSpec} {f : Field} (h : s.build = .ok f)
    (plain : f.isEmbed = false) : s.Gives f.toColumn := by
  obtain ⟨name, embed, named, rfl⟩ | ⟨e, name, fields, joined, -, -, -, -, rfl⟩ := cases_of_build h
  · exact ⟨embed, name, named, rfl⟩
  · cases plain

/-- The columns of a field come, one by one, from the leaves of its description. -/
theorem gives_leaves_of_build {s : FieldSpec} {f : Field} (h : s.build = .ok f) :
    List.Forall₂ Gives s.leaves f.columns := by
  obtain ⟨name, embed, named, rfl⟩ | ⟨e, name, fields, joined, embed, -, built, checked, rfl⟩ :=
    cases_of_build h
  · rw [leaves, embed]
    exact .cons ⟨embed, name, named, rfl⟩ .nil
  · obtain ⟨columns, plain⟩ := EmbedSpec.ofFields_eq_ok checked
    rw [leaves, embed, Field.columns_of_embed (Field.embed_ofEmbed _ _ _), columns,
      List.forall₂_map_right_iff]
    obtain ⟨length, pairs⟩ := List.forall₂_iff_zip.mp (buildAll_eq_ok_iff.mp built)
    refine List.forall₂_iff_zip.mpr ⟨length, fun pair => ?_⟩
    exact gives_of_build (pairs pair) (plain _ (List.of_mem_zip pair).2)

theorem gives_leaves_of_buildAll {specs : List FieldSpec} {fields : List Field}
    (h : buildAll specs = .ok fields) :
    List.Forall₂ Gives (specs.flatMap leaves) (fields.flatMap Field.columns) :=
  List.rel_flatMap (buildAll_eq_ok_iff.mp h) fun _ _ built => gives_leaves_of_build built

end FieldSpec

end QueryBinding
