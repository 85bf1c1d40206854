import QueryBinding.Go.Layout
import QueryBinding.Proofs.Text.Joined

/-! # Layouts of call arguments are read back

Which layout the arguments of a call have depends on their number alone, and shows in the line
breaks of the text: there is none, or one in front of all arguments and one behind each. Without its
line breaks either layout is a text joined by commas, to which the second adds a comma at the end.
Main statement: `callLayout_readable`. -/

namespace QueryBinding.Go

variable {sign : Char} {separator text : String} {texts entries : List String}

theorem stretches_of_free (free : sign ∉ text.toList) : stretches sign text = [text] := by
  rw [stretches, List.splitOn_eq_singleton free, List.map_singleton, String.ofList_toList]

theorem stretches_intercalate (single : separator.toList = [sign]) (some_text : texts ≠ [])
    (free : ∀ t ∈ texts, sign ∉ t.toList) :
    stretches sign (separator.intercalate texts) = texts := by
  have some_text' : texts.map String.toList ≠ [] :=
    fun none => some_text (List.map_eq_nil_iff.mp none)
  have free' : ∀ cs ∈ texts.map String.toList, sign ∉ cs := List.forall_mem_map.mpr free
  rw [stretches, String.toList_intercalate, single, List.splitOn_intercalate sign free' some_text',
    List.map_map]
  simp only [Function.comp_def, String.ofList_toList, List.map_id']

theorem callLayout_of_few (few : entries.length ≤ inlineLimit) :
    callLayout entries = ",".intercalate entries := if_pos few

theorem callLayout_of_many (many : ¬ entries.length ≤ inlineLimit) :
    callLayout entries = "\n".intercalate ("" :: (entries.map (· ++ ",") ++ [""])) := by
  have line (e : String) : e ++ "," ++ "\n" = e ++ ",\n" := String.append_assoc
  rw [callLayout, if_neg many, Text.intercalate_empty, String.intercalate_cons_of_ne_nil (by simp),
    Text.intercalate_concat_empty, List.map_map, String.empty_append]
  simp only [Function.comp_def, line]

theorem not_mem_callLayout_of_few (few : entries.length ≤ inlineLimit)
    (free : ∀ e ∈ entries, '\n' ∉ e.toList) : '\n' ∉ (callLayout entries).toList := by
  rw [callLayout_of_few few, String.toList_intercalate]
  intro member
  rcases Text.mem_of_mem_intercalate member with inComma | ⟨piece, inEntries, inside⟩
  · exact absurd inComma (by decide)
  · obtain ⟨e, given, rfl⟩ := List.mem_map.mp inEntries
    exact free e given inside

theorem mem_callLayout_of_many (many : ¬ entries.length ≤ inlineLimit) :
    '\n' ∈ (callLayout entries).toList := by
  rw [callLayout, if_neg many, String.toList_append]
  exact List.mem_append_left _ (by decide)

theorem callLayout_eq_empty_iff (some_text : ∀ e ∈ entries, e ≠ "") :
    callLayout entries = "" ↔ entries = [] := by
  refine ⟨fun empty => ?_, fun none => none ▸ rfl⟩
  by_cases few : entries.length ≤ inlineLimit
  · cases entries with
    | nil => rfl
    | cons first rest =>
        have chars := congrArg String.toList empty
        rw [callLayout_of_few few, String.toList_intercalate, List.map_cons,
          Text.intercalate_cons_eq, String.toList_empty, List.append_eq_nil_iff,
          String.toList_eq_nil_iff] at chars
        exact absurd chars.1 (some_text first List.mem_cons_self)
  · have broken := mem_callLayout_of_many few
    rw [empty] at broken
    cases broken

theorem stretches_callLayout (free : ∀ e ∈ entries, '\n' ∉ e.toList) :
    stretches '\n' (callLayout entries) =
      if entries.length ≤ inlineLimit then [",".intercalate entries]
      else "" :: (entries.map (· ++ ",") ++ [""]) := by
  split
  · next few =>
      rw [stretches_of_free (not_mem_callLayout_of_few few free), callLayout_of_few few]
  · next many =>
      rw [callLayout_of_many many]
      apply stretches_intercalate rfl (List.cons_ne_nil _ _)
      intro line member
      rw [List.mem_cons, List.mem_append, List.mem_singleton] at member
      rcases member with rfl | inLines | rfl
      · exact List.not_mem_nil
      · obtain ⟨e, given, rfl⟩ := List.mem_map.mp inLines
        rw [String.toList_append, List.mem_append, not_or]
        exact ⟨free e given, by decide⟩
      · exact List.not_mem_nil

/-- Without line breaks the two layouts differ in the comma at the end only. -/
theorem join_stretches_callLayout (free : ∀ e ∈ entries, '\n' ∉ e.toList) :
    String.join (stretches '\n' (callLayout entries)) =
      ",".intercalate (if entries.length ≤ inlineLimit then entries else entries ++ [""]) := by
  rw [stretches_callLayout free]
  split
  · rw [String.join_cons, String.join_nil, String.append_empty]
  · rw [String.join_cons, String.empty_append, String.join_append, String.join_cons,
      String.join_nil, String.append_empty, String.append_empty, Text.intercalate_concat_empty]

theorem readCallLayout_callLayout (plain : ∀ e ∈ entries, IsArgument e) :
    readCallLayout (callLayout entries) = entries := by
  have unbroken := join_stretches_callLayout fun e member => (plain e member).no_break
  rw [readCallLayout, unbroken]
  by_cases few : entries.length ≤ inlineLimit
  · rw [if_pos few]
    cases entries with
    | nil => rfl
    | cons first rest =>
        have last : (first :: rest).getLast? ≠ some "" := fun empty =>
          (plain "" (List.mem_of_getLast? empty)).ne_empty rfl
        rw [stretches_intercalate rfl (List.cons_ne_nil _ _)
          fun e member => (plain e member).no_comma]
        exact if_neg last
  · have free : ∀ e ∈ entries ++ [""], ',' ∉ e.toList := by
      intro e member
      rcases List.mem_append.mp member with given | closing
      · exact (plain e given).no_comma
      · rw [List.mem_singleton.mp closing]
        exact List.not_mem_nil
    rw [if_neg few, stretches_intercalate rfl (List.append_ne_nil_of_right_ne_nil _ (by simp))
      free]
    simp only [List.getLast?_concat, if_true, List.dropLast_concat]

theorem lists_callLayout (entries : List String) : Lists (callLayout entries) entries where
  inline := callLayout_of_few
  broken many := by
    have beyond : ¬ entries.length ≤ inlineLimit := Nat.not_le.mpr many
    rw [callLayout, if_neg beyond, Text.intercalate_empty]
  read := readCallLayout_callLayout

/-- Arguments without commas and line breaks are read back from either layout, so that a text is the
layout of no other list of them. It has a line break exactly if they are more than three. Then there
is nothing in front of the first line break and nothing behind the last, and one line for each
argument in between, which ends with a comma. -/
theorem callLayout_readable {entries : List String} (plain : ∀ e ∈ entries, IsArgument e) :
    readCallLayout (callLayout entries) = entries ∧
    (∀ others : List String, (∀ e ∈ others, IsArgument e) →
      (callLayout entries = callLayout others ↔ entries = others)) ∧
    ('\n' ∈ (callLayout entries).toList ↔ 3 < entries.length) ∧
    stretches '\n' (callLayout entries) =
      if entries.length ≤ 3 then [",".intercalate entries]
      else "" :: (entries.map (· ++ ",") ++ [""]) := by
  have free : ∀ e ∈ entries, '\n' ∉ e.toList := fun e member => (plain e member).no_break
  refine ⟨readCallLayout_callLayout plain, ?_, ?_, stretches_callLayout free⟩
  · intro others plain'
    refine ⟨fun same => ?_, congrArg callLayout⟩
    have read := congrArg readCallLayout same
    rwa [readCallLayout_callLayout plain, readCallLayout_callLayout plain'] at read
  · by_cases few : entries.length ≤ inlineLimit
    · exact iff_of_false (not_mem_callLayout_of_few few free) (Nat.not_lt.mpr few)
    · exact iff_of_true (mem_callLayout_of_many few) (Nat.lt_of_not_le few)

/-- Four destinations of a scan have lines of their own, and the first three of them would share
one. -/
theorem callLayout_readable_four :
    let four := ["&i.ID", "pq.Array(&i.Tags)", "&i.Name", "&i.Bio"]
    let three := ["&i.ID", "pq.Array(&i.Tags)", "&i.Name"]
    (∀ e ∈ four, IsArgument e) ∧ (∀ e ∈ three, IsArgument e) ∧
    readCallLayout "\n&i.ID,\npq.Array(&i.Tags),\n&i.Name,\n&i.Bio,\n" = four ∧
    callLayout four ≠ callLayout three ∧
    '\n' ∈ (callLayout four).toList ∧ '\n' ∉ (callLayout three).toList ∧
    stretches '\n' (callLayout four) =
      ["", "&i.ID,", "pq.Array(&i.Tags),", "&i.Name,", "&i.Bio,", ""] := by
  intro four three
  have plain : ∀ e ∈ four, IsArgument e := by decide
  have plain' : ∀ e ∈ three, IsArgument e := by decide
  obtain ⟨read, injective, broken, lines⟩ := callLayout_readable plain
  obtain ⟨-, -, broken', -⟩ := callLayout_readable plain'
  refine ⟨plain, plain', read, ?_, broken.mpr (by decide), fun member => ?_, lines⟩
  · intro same
    exact absurd ((injective three plain').mp same) (by decide)
  · exact absurd (broken'.mp member) (by decide)

end QueryBinding.Go
