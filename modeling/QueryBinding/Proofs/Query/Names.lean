import QueryBinding.Proofs.Query.WellFormed
import QueryBinding.Proofs.Text.Words

/-! # Names of built fields

A description without a name in Go must have a column to take one from. The column's name may hold
neither letter nor number, and then no name comes of it. Main statement: `named_iff_yieldsName`,
that the names of a built field and its columns are those that their descriptions yield. -/

namespace QueryBinding

/-- The names of a field and of the columns in its embed. -/
def Field.names (f : Field) : List String :=
  match f.embed with
  | none => [f.name]
  | some e => f.name :: e.columns.map (·.name)

namespace FieldSpec

/-- Whether a name comes of a description: it has one, or its column's name has a word in it. -/
def YieldsName (s : FieldSpec) : Prop :=
  (∃ name ∈ s.name, name ≠ "") ∨ ∃ c ∈ s.dbName.toList, Text.isAlphanumeric c = true

/-- A description and those in its embed. -/
def nodes (s : FieldSpec) : List FieldSpec :=
  match s.embed with
  | none => [s]
  | some e => s :: e.fields

theorem nameInGo_ne_empty_iff {s : FieldSpec} : s.nameInGo ≠ "" ↔ s.YieldsName := by
  have camel : Text.upperCamel s.dbName ≠ "" ↔
      ∃ c ∈ s.dbName.toList, Text.isAlphanumeric c = true := by
    rw [ne_eq, Text.upperCamel_eq_empty_iff]
    simp only [not_forall, Bool.not_eq_false, exists_prop]
  unfold nameInGo YieldsName
  cases s.name with
  | none =>
      rw [Option.filter_none, Option.getD_none, camel]
      simp only [Option.mem_def, reduceCtorEq, false_and, exists_false, false_or]
  | some name =>
      by_cases given : name = ""
      · rw [Option.filter_some, if_neg (by simpa using given), Option.getD_none, camel]
        simp [given]
      · rw [Option.filter_some, if_pos (by simpa using given), Option.getD_some]
        simp [given]

theorem name_of_gives {s : FieldSpec} {c : Column} (gives : s.Gives c) : c.name = s.nameInGo := by
  obtain ⟨-, name, named, rfl⟩ := gives
  exact eq_nameInGo named

theorem names_eq_of_build {s : FieldSpec} {f : Field} (built : s.build = .ok f) :
    f.names = s.nodes.map nameInGo := by
  have columns := gives_leaves_of_build built
  obtain ⟨name, plain, named, rfl⟩ | ⟨e, name, fields, joined, embed, named, -, -, rfl⟩ :=
    cases_of_build built
  · rw [nodes, plain, List.map_singleton, ← eq_nameInGo named]
    rfl
  · rw [leaves, embed] at columns
    have inside : joined.columns.map (·.name) = e.fields.map nameInGo := by
      rw [← List.forall₂_eq_eq_eq, List.forall₂_map_left_iff, List.forall₂_map_right_iff]
      exact (columns.imp fun _ _ gives => name_of_gives gives).flip
    rw [nodes, embed, List.map_cons, ← eq_nameInGo named, ← inside]
    rfl

theorem wellFormed_of_build {s : FieldSpec} {f : Field} (built : s.build = .ok f) :
    s.WellFormed := by
  rw [← faults_eq_nil_iff, ← List.head?_eq_none_iff, ← faultIn_build, built]
  rfl

/-- The tree of an accepted description ends at the fields of its embed. -/
theorem inTree_iff_of_build {s node : FieldSpec} {f : Field} (built : s.build = .ok f) :
    InTree node s ↔ node ∈ s.nodes := by
  rw [nodes]
  cases embed : s.embed with
  | none => rw [inTree_plain embed, List.mem_singleton]
  | some e =>
      have flat := ((wellFormed_of_build built).embed e embed).flat
      rw [List.mem_cons]
      constructor
      · intro inTree
        cases inTree with
        | root => exact .inl rfl
        | inside embed' member inner =>
            cases embed.symm.trans embed'
            rw [(inTree_plain (flat _ member)).mp inner]
            exact .inr member
      · rintro (rfl | member)
        · exact .root
        · exact .inside embed member .root

/-- The names of a built field and of the columns in its embed are told by their descriptions, each
by its own: it is no text where the description yields none. So all of them are names exactly if
every description in the tree yields one. -/
theorem named_iff_yieldsName {s : FieldSpec} {f : Field} (built : s.build = .ok f) :
    List.Forall₂ (fun node name => name ≠ "" ↔ node.YieldsName) s.nodes f.names ∧
    ((∀ name ∈ f.names, name ≠ "") ↔ ∀ node, InTree node s → node.YieldsName) := by
  rw [names_eq_of_build built]
  constructor
  · rw [List.forall₂_map_right_iff, List.forall₂_same]
    intro node _
    exact nameInGo_ne_empty_iff
  · simp only [List.forall_mem_map, inTree_iff_of_build built, nameInGo_ne_empty_iff]

/-- A table whose column names are respelled, one of them down to a digit. -/
theorem named_iff_yieldsName_embed :
    let author : FieldSpec :=
      { name := some "Author", type := "Author"
        embed := some ⟨[{ name := some "", dbName := "author_id", type := "int64" },
          { dbName := "__9", type := "string" }], true, ["AuthorId"]⟩ }
    ∃ f, author.build = .ok f ∧ f.names = ["Author", "AuthorId", "9"] ∧
      ∀ name ∈ f.names, name ≠ "" := by
  intro author
  have shown : author.build.map Field.names = .ok ["Author", "AuthorId", "9"] := by
    decide +kernel
  obtain ⟨f, built, names⟩ := map_eq_ok_iff.mp shown
  have yields : ∀ node ∈ author.nodes, node.YieldsName := by
    refine List.forall_mem_cons.mpr ⟨.inl ⟨"Author", rfl, by decide⟩, ?_⟩
    refine List.forall_mem_cons.mpr ⟨.inr ⟨'a', by decide, by decide⟩, ?_⟩
    exact List.forall_mem_singleton.mpr (.inr ⟨'9', by decide, by decide⟩)
  refine ⟨f, built, names, (named_iff_yieldsName built).2.mpr ?_⟩
  intro node inTree
  exact yields node ((inTree_iff_of_build built).mp inTree)

/-- A column named by an underscore becomes a field without a name. -/
theorem build_nameless :
    let flag : FieldSpec := { dbName := "_", type := "string" }
    ∃ f, flag.build = .ok f ∧ f.name = "" ∧ f.dbName = "_" := by
  intro flag
  have shown : flag.build.map (fun f => (f.name, f.dbName)) = .ok ("", "_") := by decide +kernel
  obtain ⟨f, built, shown⟩ := map_eq_ok_iff.mp shown
  simp only [Prod.mk.injEq] at shown
  exact ⟨f, built, shown⟩

end FieldSpec

end QueryBinding
