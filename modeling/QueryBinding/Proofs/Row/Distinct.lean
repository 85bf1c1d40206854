import QueryBinding.Proofs.Query.Checks
import QueryBinding.Proofs.Row.Scratch

/-! # Scratch variables kept apart

Two columns of a row that go to different places in its struct should go to different scratch
variables. The name of a scratch variable runs the names of a field and of its column together, and
does not tell where one ends and the other starts. Main statement: `scratch_distinct_iff`, that
distinct destinations stay distinct if and only if no two such names come out alike. -/

namespace QueryBinding

namespace Site

variable {owner : String} {s t : Site}

def joinedName (s : Site) : String := s.field.name ++ s.column.name

theorem name_scratch_inj :
    (s.scratch owner).name = (t.scratch owner).name ↔ s.joinedName = t.joinedName := by
  simp only [name_scratch, joinedName, String.append_assoc, String.append_right_inj]

theorem cases_of_text_place (same : (s.place owner true).text = (t.place owner true).text) :
    (s.held owner).text = (t.held owner).text ∨
    s.absentable = true ∧ t.absentable = true ∧ s.joinedName = t.joinedName := by
  cases first : s.absentable with
  | false =>
      rw [place_of_not_absentable first] at same
      cases second : t.absentable with
      | false =>
          rw [place_of_not_absentable second] at same
          exact .inl same
      | true =>
          rw [place_true_of_absentable second] at same
          exact absurd same text_held_ne_name_scratch
  | true =>
      rw [place_true_of_absentable first] at same
      cases second : t.absentable with
      | false =>
          rw [place_of_not_absentable second] at same
          exact absurd same.symm text_held_ne_name_scratch
      | true =>
          rw [place_true_of_absentable second] at same
          exact .inr ⟨rfl, rfl, name_scratch_inj.mp same⟩

/-- A joined name is read in one way only where no name of a field continues another's. -/
theorem text_held_of_joinedName (first : s.absentable = true) (second : t.absentable = true)
    (forth : s.field.name.toList <+: t.field.name.toList → s.field.name = t.field.name)
    (back : t.field.name.toList <+: s.field.name.toList → t.field.name = s.field.name)
    (same : s.joinedName = t.joinedName) : (s.held owner).text = (t.held owner).text := by
  have joined : s.field.name.toList ++ s.column.name.toList =
      t.field.name.toList ++ t.column.name.toList := by
    rw [← String.toList_append, ← String.toList_append]
    exact congrArg String.toList same
  have fields : s.field.name = t.field.name := by
    have own : s.field.name.toList <+: s.field.name.toList ++ s.column.name.toList :=
      List.prefix_append _ _
    have other : t.field.name.toList <+: s.field.name.toList ++ s.column.name.toList := by
      rw [joined]
      exact List.prefix_append _ _
    rcases List.prefix_or_prefix_of_prefix own other with shorter | longer
    · exact forth shorter
    · exact (back longer).symm
  have columns : s.column.name = t.column.name := by
    rw [joinedName, joinedName, fields, String.append_right_inj] at same
    exact same
  rw [held_of_absentable first, held_of_absentable second, fields, columns]

end Site

theorem ArraySupport.pointer_inj {arrays : ArraySupport}
    (foreign : arrays.adapter.toList.head? ≠ some '&') {type type' : GoType} {p q : String}
    (same : arrays.pointer type p = arrays.pointer type' q) :
    p = q ∧ ∀ path, arrays.pointer type path = arrays.pointer type' path := by
  -- The function may be written as no name at all; then the bracket of the call comes first.
  have apart (p q : String) : "&" ++ p ≠ arrays.adapter ++ "(&" ++ q ++ ")" := by
    intro same
    have heads := congrArg (·.toList.head?) same
    simp only [String.toList_append, List.head?_append] at heads
    cases first : arrays.adapter.toList.head? with
    | none => simp [first] at heads
    | some c =>
        have opens : '&' = c := by simpa [first] using heads
        exact foreign (first.trans (congrArg some opens.symm))
  simp only [pointer] at same ⊢
  split at same
  · next wrapped =>
      split at same
      · next wrapped' =>
          have inside := (String.append_left_inj _).mp same
          refine ⟨(String.append_right_inj _).mp inside, fun path => ?_⟩
          rw [if_pos wrapped, if_pos wrapped']
      · exact absurd same.symm (apart q p)
  · next bare =>
      split at same
      · exact absurd same (apart p q)
      · next bare' =>
          refine ⟨(String.append_right_inj _).mp same, fun path => ?_⟩
          rw [if_neg bare, if_neg bare']

namespace Binding

variable {owner : String} {r : Record} {asStruct byPointer : Bool} {arrays : ArraySupport}

theorem nodup_pointers_iff {separate : Bool} :
    (pointers ⟨.record owner r, asStruct, byPointer, arrays⟩ separate).Nodup ↔
    r.sites.Pairwise fun s t =>
      arrays.pointer s.column.type (s.place owner separate).text ≠
        arrays.pointer t.column.type (t.place owner separate).text := by
  rw [pointers_record, List.nodup_iff_pairwise_ne, List.pairwise_map]

theorem nodup_scratch_iff (b : Binding) :
    (b.declarations.map (·.scratch.name)).Nodup ↔ (b.absentSites.map Site.joinedName).Nodup := by
  rw [declarations_eq, List.map_map]
  simp only [List.nodup_iff_pairwise_ne, List.pairwise_map]
  constructor
  · intro apart
    exact apart.imp fun differ same => differ (Site.name_scratch_inj.mpr same)
  · intro apart
    exact apart.imp fun differ same => differ (Site.name_scratch_inj.mp same)

/-- A record is scanned into distinct variables. With scratch variables it still is, and declares
each of them once, if and only if the columns of its nullable embeds have distinct joined names. The
adapter is any function whose name does not read as an address. -/
theorem scratch_distinct_iff (foreign : arrays.adapter.toList.head? ≠ some '&')
    (distinct : (pointers ⟨.record owner r, asStruct, byPointer, arrays⟩ false).Nodup) :
    let b : Binding := ⟨.record owner r, asStruct, byPointer, arrays⟩
    (∀ separate, Go.Lists (b.scan separate) (b.pointers separate)) ∧
    (b.scratchLines = b.declarations.map fun d =>
      "var " ++ d.scratch.name ++ " " ++ d.type.text) ∧
    ((b.pointers true).Nodup ∧ (b.declarations.map (·.scratch.name)).Nodup ↔
      (b.absentSites.map Site.joinedName).Nodup) := by
  intro b
  refine ⟨b.lists_scan, rfl, ?_⟩
  constructor
  · rintro ⟨-, declared⟩
    exact b.nodup_scratch_iff.mp declared
  · intro apart
    refine ⟨?_, b.nodup_scratch_iff.mpr apart⟩
    rw [List.nodup_iff_pairwise_ne, List.pairwise_map] at apart
    have absent := List.pairwise_filter.mp apart
    apply nodup_pointers_iff.mpr
    apply ((nodup_pointers_iff.mp distinct).and absent).imp
    rintro s t ⟨direct, differ⟩ same
    -- Under one adapter two columns meet in the struct, which `direct` rules out, or in a scratch
    -- variable, which `differ` does.
    obtain ⟨place, adapter⟩ := ArraySupport.pointer_inj foreign same
    rcases Site.cases_of_text_place place with inStruct | ⟨first, second, joined⟩
    · apply direct
      rw [Site.place_false, Site.place_false, adapter, inStruct]
    · exact differ first second joined

/-- No two columns meet in one scratch variable if they have places of their own in the struct, and
no nullable embed has a name that continues the name of another. -/
theorem nodup_scratch_of_prefix
    (distinct : ((destinations ⟨.record owner r, asStruct, byPointer, arrays⟩ false).map
      (·.place.text)).Nodup)
    (apart : ∀ f ∈ r.fields, ∀ g ∈ r.fields, f.nullableEmbed?.isSome → g.nullableEmbed?.isSome →
      f.name.toList <+: g.name.toList → f.name = g.name) :
    ((declarations ⟨.record owner r, asStruct, byPointer, arrays⟩).map (·.scratch.name)).Nodup := by
  apply (nodup_scratch_iff _).mpr
  rw [destinations_eq_sites, List.map_map, List.nodup_iff_pairwise_ne, List.pairwise_map]
    at distinct
  rw [List.nodup_iff_pairwise_ne, List.pairwise_map]
  apply List.pairwise_filter.mpr
  apply distinct.imp_of_mem
  intro s t inRow inRow' direct first second same
  have inFields := (Record.mem_sites inRow).1
  have inFields' := (Record.mem_sites inRow').1
  have held : (s.held owner).text = (t.held owner).text :=
    Site.text_held_of_joinedName first second (apart _ inFields _ inFields' first second)
      (apart _ inFields' _ inFields second first) same
  exact direct (by simpa using held)

/-- Two nullable embeds of which one is named by a beginning of the other's name, and a column that
goes straight to the struct. -/
theorem scratch_distinct_iff_prefix :
    let id : Column := { name := "ID", type := .scalar .int64 }
    let tags : Column := { name := "Tags", type := .list (.scalar .string) }
    let e : Embed := ⟨[id, tags], [id], List.cons_ne_nil _ _, by simp⟩
    let user : Field := { name := "User", type := .record "User", embed := some e }
    let group : Field := { name := "UserGroup", type := .record "UserGroup", embed := some e }
    let plain : Field := { name := "UserID", type := .scalar .int64 }
    let arrays : ArraySupport := ⟨false, "pq.Array"⟩
    let b : Binding := .ofRecord "i" ⟨"ListVisitsRow", [user, plain, group]⟩ arrays
    arrays.adapter.toList.head? ≠ some '&' ∧ (b.pointers false).Nodup ∧
    (b.pointers true).Nodup ∧ (b.declarations.map (·.scratch.name)).Nodup := by
  intro id tags e user group plain arrays b
  have foreign : arrays.adapter.toList.head? ≠ some '&' := by decide
  have distinct : (b.pointers false).Nodup := by decide +kernel
  have joined : (b.absentSites.map Site.joinedName).Nodup := by decide +kernel
  obtain ⟨-, -, same⟩ := scratch_distinct_iff foreign distinct
  exact ⟨foreign, distinct, same.mpr joined⟩

end Binding

/-- The column `GroupID` of a user and the column `ID` of a group of users have places of their own
in the struct, and one scratch variable. -/
theorem Statement.scratch_merges_columns :
    let q : QuerySpec :=
      { name := "ListVisits", command := ":many"
        text := "SELECT sqlc.embed(users), sqlc.embed(user_groups) FROM visits LEFT JOIN …"
        columns :=
          [{ name := some "User", type := "User"
             embed := some ⟨[{ name := some "GroupID", type := "int64" }], true, ["GroupID"]⟩ },
           { name := some "UserGroup", type := "UserGroup"
             embed := some ⟨[{ name := some "ID", type := "int64" }], true, ["ID"]⟩ }] }
    ∃ st, ofQuery {} q = .ok st ∧
      ((st.result.destinations false).map Destination.text).Nodup ∧
      (st.result.destinations true).map Destination.text =
        ["&iEmbedUserGroupID", "&iEmbedUserGroupID"] ∧
      st.result.declarations.map (·.scratch.name) = ["iEmbedUserGroupID", "iEmbedUserGroupID"] ∧
      st.result.scan false = "&i.User.GroupID,&i.UserGroup.ID" ∧
      st.result.scan true = "&iEmbedUserGroupID,&iEmbedUserGroupID" ∧
      st.result.scratchLines =
        ["var iEmbedUserGroupID sql.NullInt64", "var iEmbedUserGroupID sql.NullInt64"] := by
  intro q
  have shown : (ofQuery {} q).map (fun st => ((st.result.destinations false).map Destination.text,
      (st.result.destinations true).map Destination.text,
      st.result.declarations.map (·.scratch.name))) =
      .ok (["&i.User.GroupID", "&i.UserGroup.ID"], ["&iEmbedUserGroupID", "&iEmbedUserGroupID"],
        ["iEmbedUserGroupID", "iEmbedUserGroupID"]) := by decide +kernel
  have written : (ofQuery {} q).map (fun st => (st.result.scan false, st.result.scan true,
      st.result.scratchLines)) =
      .ok ("&i.User.GroupID,&i.UserGroup.ID", "&iEmbedUserGroupID,&iEmbedUserGroupID",
        ["var iEmbedUserGroupID sql.NullInt64", "var iEmbedUserGroupID sql.NullInt64"]) := by
    decide +kernel
  obtain ⟨st, made, shown⟩ := map_eq_ok_iff.mp shown
  rw [made] at written
  simp only [Except.map, Except.ok.injEq, Prod.mk.injEq] at shown written
  obtain ⟨direct, apart, declared⟩ := shown
  refine ⟨st, made, ?_, apart, declared, written⟩
  rw [direct]
  decide

end QueryBinding
