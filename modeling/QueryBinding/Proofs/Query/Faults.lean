import QueryBinding.Proofs.Query.Fields

/-! # What is wrong with a description

All that is wrong with a description is listed here without stopping anywhere, from the name of the
outermost field down to the last key. Building stops instead, and looks at an embed only on its way
back up. Main statement: `faultIn_build`, that it stops at the first fault of the list. -/

namespace QueryBinding

namespace FieldSpec

/-- Whether there is a name, or a column to take one from. -/
def HasName (s : FieldSpec) : Prop := (∃ name ∈ s.name, name ≠ "") ∨ s.dbName ≠ ""

instance (s : FieldSpec) : Decidable s.HasName := inferInstanceAs (Decidable (_ ∨ _))

/-- The name in Go of a description that has one. -/
def nameInGo (s : FieldSpec) : String :=
  (s.name.filter (· ≠ "")).getD (Text.upperCamel s.dbName)

end FieldSpec

namespace EmbedSpec

/-- What is wrong with the shape of an embed: it has no fields, or embeds among them. -/
def shapeFaults (e : EmbedSpec FieldSpec) (owner : String) : List Failure :=
  (if e.fields = [] then [(StatementFault.emptyEmbed owner).failure] else []) ++
    (e.fields.filter (·.embed.isSome)).map
      fun f => (StatementFault.nestedEmbed owner f.nameInGo).failure

/-- What is wrong with the key of an embed that may be absent. -/
def keyFaults (e : EmbedSpec FieldSpec) (owner : String) : List Failure :=
  (if e.primaryKeys = [] then [⟨.missingKey owner, []⟩] else []) ++
    (e.primaryKeys.filter (· ∉ e.fields.map (·.nameInGo))).map
      fun key => (StatementFault.unknownKey key owner).failure

def faults (e : EmbedSpec FieldSpec) (owner : String) : List Failure :=
  e.shapeFaults owner ++ if e.nullable then e.keyFaults owner else []

end EmbedSpec

namespace FieldSpec

def nameFaults (s : FieldSpec) : List Failure :=
  if s.HasName then [] else [(StatementFault.namelessField s.type).failure]

mutual

/-- What is wrong with a description: its name, the fields of its embed from left to right, and the
embed itself. -/
def faults : FieldSpec → List Failure
  | ⟨name, dbName, type, declaredName, isSlice, embed⟩ =>
    let spec : FieldSpec := ⟨name, dbName, type, declaredName, isSlice, embed⟩
    spec.nameFaults ++
      match embed with
      | none => []
      | some ⟨fields, nullable, keys⟩ =>
        allFaults fields ++ EmbedSpec.faults ⟨fields, nullable, keys⟩ spec.nameInGo

def allFaults : List FieldSpec → List Failure
  | [] => []
  | spec :: specs => faults spec ++ allFaults specs

end

theorem allFaults_eq (specs : List FieldSpec) : allFaults specs = specs.flatMap faults := by
  induction specs with
  | nil => rw [allFaults, List.flatMap_nil]
  | cons spec specs ih => rw [allFaults, List.flatMap_cons, ih]

theorem faults_plain {s : FieldSpec} (h : s.embed = none) : s.faults = s.nameFaults := by
  obtain ⟨name, dbName, type, declaredName, isSlice, embed⟩ := s
  cases h
  rw [faults]
  exact List.append_nil _

theorem faults_embed {s : FieldSpec} {e : EmbedSpec FieldSpec} (h : s.embed = some e) :
    s.faults = s.nameFaults ++ (e.fields.flatMap faults ++ e.faults s.nameInGo) := by
  obtain ⟨name, dbName, type, declaredName, isSlice, embed⟩ := s
  obtain ⟨fields, nullable, keys⟩ := e
  cases h
  rw [faults, ← allFaults_eq]

/-- What carries over from the fields of an embed to the field it stands in holds of every
description. -/
theorem tree_induction {motive : FieldSpec → Prop}
    (node : ∀ s, (∀ e, s.embed = some e → ∀ f ∈ e.fields, motive f) → motive s) (s : FieldSpec) :
    motive s := by
  refine build.induct motive (fun fields => ∀ f ∈ fields, motive f) ?_ nofun ?_ s
  · intro name dbName type declaredName isSlice embed inside
    apply node
    rintro ⟨fields, nullable, keys⟩ rfl
    exact inside
  · intro first rest head tail
    exact List.forall_mem_cons.mpr ⟨head, tail⟩

theorem goName_eq (s : FieldSpec) :
    s.goName = if s.HasName then .ok s.nameInGo
      else .error (StatementFault.namelessField s.type).failure := by
  obtain ⟨name, dbName, type, declaredName, isSlice, embed⟩ := s
  cases name with
  | none =>
      by_cases column : dbName = "" <;>
        simp [goName, goName.derived, HasName, nameInGo, column]
  | some name =>
      by_cases given : name = "" <;> by_cases column : dbName = "" <;>
        simp [goName, goName.derived, HasName, nameInGo, given, column, Option.filter_some]

theorem faultIn_goName (s : FieldSpec) : faultIn s.goName = s.nameFaults.head? := by
  rw [goName_eq, nameFaults]
  split <;> rfl

theorem eq_nameInGo {s : FieldSpec} {name : String} (h : s.goName = .ok name) :
    name = s.nameInGo := by
  rw [goName_eq] at h
  split at h
  · exact (Except.ok.inj h).symm
  · cases h

theorem name_of_build {s : FieldSpec} {f : Field} (h : s.build = .ok f) : f.name = s.nameInGo :=
  eq_nameInGo (goName_of_build h)

theorem names_of_build {specs : List FieldSpec} {fields : List Field}
    (built : List.Forall₂ (fun s f => s.build = .ok f) specs fields) :
    fields.map (·.name) = specs.map nameInGo ∧
    (fields.filter (·.isEmbed)).map (·.name) =
      (specs.filter (·.embed.isSome)).map nameInGo := by
  induction built with
  | nil => exact ⟨rfl, rfl⟩
  | @cons s f specs fields first rest ih =>
      obtain ⟨names, nested⟩ := ih
      constructor
      · simp only [List.map_cons, names, name_of_build first]
      · rw [List.filter_cons, List.filter_cons, isEmbed_of_build first]
        split
        · simp only [List.map_cons, nested, name_of_build first]
        · exact nested

end FieldSpec

theorem faultIn_keyColumn (owner : String) (columns : List Column) (key : String) :
    faultIn (keyColumn owner columns key) =
      if key ∈ columns.map (·.name) then none
      else some (StatementFault.unknownKey key owner).failure := by
  unfold keyColumn
  split
  · next column found =>
      have named : column.name = key := by
        simpa only [beq_iff_eq] using List.find?_some found
      rw [if_pos (List.mem_map.mpr ⟨column, List.mem_of_find?_eq_some found, named⟩)]
      rfl
  · next absent =>
      rw [if_neg]
      · rfl
      · intro member
        obtain ⟨column, member, named⟩ := List.mem_map.mp member
        exact List.find?_eq_none.mp absent column member (beq_iff_eq.mpr named)

theorem faultIn_keyColumns (owner : String) (columns : List Column) (keys : List String) :
    faultIn (keys.mapM (keyColumn owner columns)) =
      ((keys.filter (· ∉ columns.map (·.name))).map
        fun key => (StatementFault.unknownKey key owner).failure).head? := by
  rw [faultIn_mapM fun key _ => faultIn_keyColumn owner columns key]
  generalize columns.map (·.name) = names
  induction keys with
  | nil => rfl
  | cons key keys ih =>
      by_cases named : key ∈ names <;> simp [named, ih]

theorem faultIn_embedColumns (owner : String) (fields : List Field) :
    faultIn (embedColumns owner fields) =
      (if fields = [] then some (StatementFault.emptyEmbed owner).failure else none).or
        (((fields.find? (·.isEmbed)).map (·.name)).map
          fun nested => (StatementFault.nestedEmbed owner nested).failure) := by
  cases fields with
  | nil => rfl
  | cons first rest =>
      rw [if_neg (List.cons_ne_nil first rest), Option.none_or]
      unfold embedColumns
      dsimp only
      split
      · next nested found => rw [found]; rfl
      · next flat => rw [flat]; rfl

namespace EmbedSpec

variable {e : EmbedSpec FieldSpec} {fields : List Field}

theorem faultIn_shape (built : List.Forall₂ (fun s f => s.build = .ok f) e.fields fields)
    (owner : String) : faultIn (embedColumns owner fields) = (e.shapeFaults owner).head? := by
  have nested := congrArg List.head? (FieldSpec.names_of_build built).2
  simp only [List.head?_map, List.head?_filter] at nested
  have empty : fields = [] ↔ e.fields = [] := by
    rw [← List.length_eq_zero_iff, ← built.length_eq, List.length_eq_zero_iff]
  simp only [faultIn_embedColumns, shapeFaults, List.head?_append, List.head?_map,
    List.head?_filter, nested, empty, Option.map_map]
  split <;> rfl

/-- Once its fields are built, an embed is refused for the first of its own faults. -/
theorem faultIn_ofFields (built : List.Forall₂ (fun s f => s.build = .ok f) e.fields fields)
    (owner : String) : faultIn (e.ofFields owner fields) = (e.faults owner).head? := by
  rw [ofFields, faults, List.head?_append, ← faultIn_shape built owner]
  split
  · apply faultIn_bind
    intro columns checked
    have names : columns.val.map (·.name) = e.fields.map (·.nameInGo) := by
      rw [(embedColumns_eq_ok checked).1, List.map_map]
      exact (FieldSpec.names_of_build built).1
    rw [keyFaults]
    cases e.primaryKeys with
    | nil => rfl
    | cons key keys =>
        rw [if_neg (List.cons_ne_nil key keys), List.nil_append, ← names, ← faultIn_keyColumns]
        exact faultIn_bind_ok _ _
  · exact faultIn_bind fun columns _ => rfl

end EmbedSpec

namespace FieldSpec

/-- Building fails with the first fault that there is. -/
theorem faultIn_build (s : FieldSpec) : faultIn s.build = s.faults.head? := by
  induction s using tree_induction with
  | node s ih =>
      cases embed : s.embed with
      | none => rw [build_plain embed, faultIn_map, faultIn_goName, faults_plain embed]
      | some e =>
          have inner : faultIn (buildAll e.fields) = (e.fields.flatMap faults).head? := by
            rw [buildAll_eq_mapM, List.head?_flatMap]
            exact faultIn_mapM (ih e embed)
          rw [build_embed embed, faults_embed embed, List.head?_append, List.head?_append,
            ← faultIn_goName, ← inner]
          apply faultIn_bind
          intro name named
          apply faultIn_bind
          intro fields built
          rw [← eq_nameInGo named, ← EmbedSpec.faultIn_ofFields (buildAll_eq_ok_iff.mp built)]
          exact faultIn_bind_ok _ _

end FieldSpec

end QueryBinding
