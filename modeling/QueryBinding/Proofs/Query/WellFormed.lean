import QueryBinding.Proofs.Query.Faults

/-! # Well-formed descriptions

A description can nest embeds to any depth, but none that nests them is accepted. Main statement:
`accepted_iff_wellFormed`, that a description is accepted if its tree is well formed, with the embed
it describes, and is otherwise refused with the first of its faults. -/

namespace QueryBinding

/-- The descriptions in the tree of a description, itself among them. -/
inductive FieldSpec.InTree (node : FieldSpec) : FieldSpec → Prop
  | root : InTree node node
  | inside {s : FieldSpec} {e : EmbedSpec FieldSpec} {f : FieldSpec} :
      s.embed = some e → f ∈ e.fields → InTree node f → InTree node s

/-- An embed of at least one field, flat, and with a key among its fields if it may be absent. -/
structure EmbedSpec.WellFormed (e : EmbedSpec FieldSpec) : Prop where
  fields_ne_nil : e.fields ≠ []
  flat : ∀ f ∈ e.fields, f.embed = none
  keys_ne_nil : e.nullable = true → e.primaryKeys ≠ []
  keys_named : e.nullable = true → ∀ key ∈ e.primaryKeys, ∃ f ∈ e.fields, f.nameInGo = key

structure FieldSpec.WellFormed (s : FieldSpec) : Prop where
  named : ∀ node, InTree node s → node.HasName
  embed : ∀ e, s.embed = some e → e.WellFormed

namespace FieldSpec

theorem inTree_plain {s node : FieldSpec} (h : s.embed = none) : InTree node s ↔ node = s := by
  constructor
  · intro inTree
    cases inTree with
    | root => rfl
    | inside embed member inner => cases h.symm.trans embed
  · rintro rfl
    exact .root

theorem wellFormed_plain {s : FieldSpec} (h : s.embed = none) : s.WellFormed ↔ s.HasName := by
  constructor
  · intro wellFormed
    exact wellFormed.named s .root
  · intro named
    refine ⟨fun node inTree => ?_, fun e embed => ?_⟩
    · rwa [(inTree_plain h).mp inTree]
    · cases h.symm.trans embed

/-- In a well-formed tree an embed's fields are leaves, so that all names are seen from its root. -/
theorem wellFormed_embed {s : FieldSpec} {e : EmbedSpec FieldSpec} (h : s.embed = some e) :
    s.WellFormed ↔ s.HasName ∧ (∀ f ∈ e.fields, f.HasName) ∧ e.WellFormed := by
  constructor
  · intro wellFormed
    exact ⟨wellFormed.named s .root,
      fun f member => wellFormed.named f (.inside h member .root), wellFormed.embed e h⟩
  · rintro ⟨named, fields, embed⟩
    refine ⟨fun node inTree => ?_, fun e' embed' => ?_⟩
    · cases inTree with
      | root => exact named
      | inside embed' member inner =>
          cases h.symm.trans embed'
          rw [(inTree_plain (embed.flat _ member)).mp inner]
          exact fields _ member
    · cases h.symm.trans embed'
      exact embed

theorem nameFaults_eq_nil_iff {s : FieldSpec} : s.nameFaults = [] ↔ s.HasName := by
  simp [nameFaults]

end FieldSpec

namespace EmbedSpec

variable {e : EmbedSpec FieldSpec} {owner : String}

theorem shapeFaults_eq_nil_iff :
    e.shapeFaults owner = [] ↔ e.fields ≠ [] ∧ ∀ f ∈ e.fields, f.embed = none := by
  simp [shapeFaults]

theorem keyFaults_eq_nil_iff :
    e.keyFaults owner = [] ↔
      e.primaryKeys ≠ [] ∧ ∀ key ∈ e.primaryKeys, ∃ f ∈ e.fields, f.nameInGo = key := by
  simp [keyFaults]

theorem faults_eq_nil_iff : e.faults owner = [] ↔ e.WellFormed := by
  rw [faults, List.append_eq_nil_iff, shapeFaults_eq_nil_iff]
  cases nullable : e.nullable with
  | false =>
      constructor
      · rintro ⟨⟨some_field, flat⟩, -⟩
        exact ⟨some_field, flat, by simp [nullable], by simp [nullable]⟩
      · intro wellFormed
        exact ⟨⟨wellFormed.fields_ne_nil, wellFormed.flat⟩, rfl⟩
  | true =>
      rw [if_pos rfl, keyFaults_eq_nil_iff]
      constructor
      · rintro ⟨⟨some_field, flat⟩, some_key, named⟩
        exact ⟨some_field, flat, fun _ => some_key, fun _ => named⟩
      · intro wellFormed
        exact ⟨⟨wellFormed.fields_ne_nil, wellFormed.flat⟩, wellFormed.keys_ne_nil nullable,
          wellFormed.keys_named nullable⟩

end EmbedSpec

namespace FieldSpec

theorem faults_eq_nil_iff {s : FieldSpec} : s.faults = [] ↔ s.WellFormed := by
  cases embed : s.embed with
  | none => rw [faults_plain embed, wellFormed_plain embed, nameFaults_eq_nil_iff]
  | some e =>
      rw [faults_embed embed, wellFormed_embed embed, List.append_eq_nil_iff,
        List.append_eq_nil_iff, nameFaults_eq_nil_iff, EmbedSpec.faults_eq_nil_iff,
        List.flatMap_eq_nil_iff]
      refine and_congr_right fun _ => and_congr_left fun flat => forall₂_congr fun f member => ?_
      rw [faults_plain (flat.flat f member), nameFaults_eq_nil_iff]

end FieldSpec

/-- What an embed is in an accepted field: the columns of its fields in order and, if it may be
absent, for each name in its key the first column so named. -/
structure EmbedSpec.Built (e : EmbedSpec FieldSpec) (built : Embed) : Prop where
  columns : List.Forall₂ FieldSpec.Gives e.fields built.columns
  nullable : built.nullable = e.nullable
  keys : List.Forall₂ (fun key column => built.columns.find? (·.name = key) = some column)
    (if e.nullable then e.primaryKeys else []) built.keys

theorem find?_of_keyColumn {owner : String} {columns : List Column} {key : String}
    {found : {column : Column // column ∈ columns}}
    (h : keyColumn owner columns key = .ok found) :
    columns.find? (·.name = key) = some found.val := by
  unfold keyColumn at h
  split at h
  · next column first =>
      cases h
      simpa only [beq_eq_decide] using first
  · cases h

theorem EmbedSpec.keys_of_ofFields {e : EmbedSpec FieldSpec} {owner : String}
    {fields : List Field} {built : Embed} (h : e.ofFields owner fields = .ok built) :
    built.nullable = e.nullable ∧
    List.Forall₂ (fun key column => built.columns.find? (·.name = key) = some column)
      (if e.nullable then e.primaryKeys else []) built.keys := by
  unfold ofFields at h
  split at h
  · next nullable =>
      obtain ⟨columns, -, h⟩ := bind_eq_ok_iff.mp h
      split at h
      · cases h
      · next some_key =>
          obtain ⟨found, keys, same⟩ := bind_eq_ok_iff.mp h
          cases same
          have pairs := mapM_eq_ok_iff.mp keys
          rw [List.isEmpty_iff_length_eq_zero, pairs.length_eq,
            ← List.isEmpty_iff_length_eq_zero] at some_key
          constructor
          · rw [nullable, Embed.nullable, List.isEmpty_map, Bool.eq_false_iff.mpr some_key,
              Bool.not_false]
          · rw [if_pos nullable, List.forall₂_map_right_iff]
            exact pairs.imp fun _ _ found => find?_of_keyColumn found
  · next present =>
      obtain ⟨columns, -, same⟩ := bind_eq_ok_iff.mp h
      cases same
      rw [if_neg present]
      exact ⟨(Bool.eq_false_iff.mpr present).symm, .nil⟩

namespace FieldSpec

theorem embed_of_build {s : FieldSpec} {f : Field} (h : s.build = .ok f) :
    Option.Rel EmbedSpec.Built s.embed f.embed := by
  have columns := gives_leaves_of_build h
  obtain ⟨name, plain, -, rfl⟩ | ⟨e, name, fields, built, embed, -, -, checked, rfl⟩ :=
    cases_of_build h
  · rw [plain]
    exact .none
  · obtain ⟨nullable, keys⟩ := EmbedSpec.keys_of_ofFields checked
    rw [leaves, embed] at columns
    rw [embed]
    exact .some ⟨columns, nullable, keys⟩

/-- A description is accepted if its tree is well formed, and otherwise refused with the first of
its faults. The embed of an accepted one is as it was described. -/
theorem accepted_iff_wellFormed (s : FieldSpec) :
    ((∃ f, s.build = .ok f) ↔ s.WellFormed) ∧
    (∀ f, s.build = .ok f → Option.Rel EmbedSpec.Built s.embed f.embed) ∧
    ∀ failure, s.build = .error failure ↔ s.faults.head? = some failure := by
  refine ⟨?_, fun f built => embed_of_build built, fun failure => ?_⟩
  · rw [← faultIn_eq_none_iff, faultIn_build, List.head?_eq_none_iff, faults_eq_nil_iff]
  · rw [← faultIn_eq_some_iff, faultIn_build]

/-- An embed that may be absent, with two columns of one name and its key in another order; and a
tree in which much is wrong, from a key of the inner embed to the missing key of the outer one. -/
theorem accepted_iff_wellFormed_embeds :
    let author : FieldSpec :=
      { name := some "Author", type := "Author"
        embed := some ⟨[{ name := some "", dbName := "id", type := "int64" },
          { dbName := "name", type := "string" },
          { name := some "Id", dbName := "other", type := "string" }], true, ["Name", "Id"]⟩ }
    let post : FieldSpec :=
      { name := some "Post", type := "Post"
        embed := some ⟨[{ name := some "Author", type := "Author"
                          embed := some ⟨[{ dbName := "id", type := "int64" }], true,
                            ["Id", "ID", "Key"]⟩ },
          { type := "string" }], true, []⟩ }
    (∃ f e, author.WellFormed ∧ author.build = .ok f ∧ f.embed = some e ∧ e.nullable = true ∧
      e.keys.map (fun k => (k.name, k.dbName)) = [("Name", "name"), ("Id", "id")]) ∧
    post.faults = [(StatementFault.unknownKey "ID" "Author").failure,
      (StatementFault.unknownKey "Key" "Author").failure,
      (StatementFault.namelessField "string").failure,
      (StatementFault.nestedEmbed "Post" "Author").failure, ⟨.missingKey "Post", []⟩] ∧
    post.build = .error (StatementFault.unknownKey "ID" "Author").failure := by
  intro author post
  constructor
  · have wellFormed : author.WellFormed :=
      (wellFormed_embed rfl).mpr ⟨by decide, by decide, by decide, by decide, by decide, by decide⟩
    obtain ⟨accepted, gives, -⟩ := accepted_iff_wellFormed author
    obtain ⟨f, built⟩ := accepted.mpr wellFormed
    have joined := gives f built
    generalize embed : f.embed = embed at joined
    cases joined with
    | @some _ e given =>
        obtain ⟨columns, nullable, keys⟩ := given
        change List.Forall₂ _ [_, _, _] _ at columns
        generalize e.columns = taken at columns keys
        obtain _ | ⟨⟨-, _, id, rfl⟩, _ | ⟨⟨-, _, name, rfl⟩, _ | ⟨⟨-, _, again, rfl⟩, _ | _⟩⟩⟩ :=
          columns
        cases id
        cases name
        cases again
        refine ⟨f, e, wellFormed, built, embed, nullable, ?_⟩
        change List.Forall₂ _ [_, _] _ at keys
        generalize e.keys = found at keys
        obtain _ | ⟨first, _ | ⟨second, _ | _⟩⟩ := keys
        cases first
        cases second
        decide
  · obtain ⟨-, -, refused⟩ := accepted_iff_wellFormed post
    exact ⟨by decide, (refused _).mpr (by decide)⟩

end FieldSpec

end QueryBinding
