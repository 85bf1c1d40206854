import QueryBinding.Binding.Presence
import QueryBinding.Go.Condition
import QueryBinding.Proofs.Text.Joined

/-! # Guards read as conditions

The guard of a nullable embed is written as tests with an operator between them. Main statement:
`readCondition?_guard`, that a reader finds these tests in it and no other, in their order, and that
its value is what the rule of the guard says. -/

namespace QueryBinding.Go

theorem cutAt_of_free {sign : Char} {cs : List Char} (free : sign ∉ cs) : cutAt sign cs = [cs] := by
  induction cs with
  | nil => rfl
  | cons c cs ih =>
      rw [List.mem_cons, not_or] at free
      cases cs with
      | nil => rfl
      | cons d cs =>
          have other : ¬ (c = sign ∧ d = sign) := fun both => free.1 both.1.symm
          rw [cutAt, if_neg other, ih free.2]
          rfl

theorem cutAt_append {sign : Char} {cs : List Char} (free : sign ∉ cs) (rest : List Char) :
    cutAt sign (cs ++ sign :: sign :: rest) = cs :: cutAt sign rest := by
  induction cs with
  | nil => rw [List.nil_append, cutAt, if_pos ⟨rfl, rfl⟩]
  | cons c cs ih =>
      rw [List.mem_cons, not_or] at free
      have ahead := ih free.2
      cases cs with
      | nil =>
          have other : ¬ (c = sign ∧ sign = sign) := fun both => free.1 both.1.symm
          rw [List.cons_append, List.nil_append, cutAt, if_neg other]
          rw [List.nil_append] at ahead
          rw [ahead]
          rfl
      | cons d cs =>
          have other : ¬ (c = sign ∧ d = sign) := fun both => free.1 both.1.symm
          rw [List.cons_append, List.cons_append, cutAt, if_neg other]
          rw [List.cons_append] at ahead
          rw [ahead]
          rfl

theorem trimmed_pad {before word after : List Char} (ahead : ∀ c ∈ before, isSpace c = true)
    (behind : ∀ c ∈ after, isSpace c = true) (solid : ∀ c ∈ word, isSpace c = false)
    (some_char : word ≠ []) : trimmed (before ++ word ++ after) = word := by
  obtain ⟨c, rest, rfl⟩ := List.exists_cons_of_ne_nil some_char
  have first : isSpace c = false := solid c List.mem_cons_self
  have opened : (before ++ (c :: rest) ++ after).dropWhile isSpace = (c :: rest) ++ after := by
    rw [List.append_assoc, List.dropWhile_append_of_pos ahead, List.cons_append,
      List.dropWhile_cons_of_neg (by simp [first])]
  obtain ⟨d, front, last⟩ := List.exists_cons_of_ne_nil
    (List.reverse_ne_nil_iff.mpr (List.cons_ne_nil c rest))
  have final : isSpace d = false := by
    apply solid d
    rw [← List.mem_reverse, last]
    exact List.mem_cons_self
  have behind' : ∀ x ∈ after.reverse, isSpace x = true := by
    intro x member
    exact behind x (List.mem_reverse.mp member)
  rw [trimmed, opened, List.reverse_append, List.dropWhile_append_of_pos behind', last,
    List.dropWhile_cons_of_neg (by simp [final]), ← last, List.reverse_reverse]

def testChars (name : String) : List Char := name.toList ++ ".Valid".toList

theorem of_mem_testChars {name : String} (named : isName name = true) {c : Char}
    (member : c ∈ testChars name) : c ≠ ' ' ∧ c ≠ '\t' ∧ c ≠ '|' ∧ c ≠ '&' := by
  rw [isName, Bool.and_eq_true, List.all_eq_true] at named
  rcases List.mem_append.mp member with inName | inField
  · have nameChar := named.2 c inName
    refine ⟨?_, ?_, ?_, ?_⟩ <;>
      · rintro rfl
        revert nameChar
        decide
  · have all : (".Valid".toList.all fun c => c ≠ ' ' ∧ c ≠ '\t' ∧ c ≠ '|' ∧ c ≠ '&') = true := rfl
    exact of_decide_eq_true (List.all_eq_true.mp all c inField)

theorem readTest?_pad {name : String} (named : isName name = true) {before after : List Char}
    (ahead : ∀ c ∈ before, isSpace c = true) (behind : ∀ c ∈ after, isSpace c = true) :
    readTest? (before ++ testChars name ++ after) = some name := by
  have solid : ∀ c ∈ testChars name, isSpace c = false := by
    intro c member
    obtain ⟨blank, tab, -, -⟩ := of_mem_testChars named member
    simp [isSpace, blank, tab]
  have some_char : testChars name ≠ [] := List.append_ne_nil_of_right_ne_nil _ (by decide)
  have field : Text.dropPrefix? ".Valid".toList.reverse (testChars name).reverse =
      some name.toList.reverse := by
    rw [Text.dropPrefix?_eq_some_iff, testChars, List.reverse_append]
  rw [readTest?, trimmed_pad ahead behind solid some_char, field]
  simp only [Option.bind_eq_bind, Option.bind_some, List.reverse_reverse, String.ofList_toList,
    named, if_true]

theorem readAlternative?_pad {name : String} (named : isName name = true)
    {before after : List Char} (ahead : ∀ c ∈ before, isSpace c = true)
    (behind : ∀ c ∈ after, isSpace c = true) :
    readAlternative? (before ++ testChars name ++ after) = some [name] := by
  have free : '&' ∉ before ++ testChars name ++ after := by
    intro member
    rw [List.mem_append, List.mem_append] at member
    rcases member with (inFront | inTest) | inBack
    · exact absurd (ahead _ inFront) (by decide)
    · exact (of_mem_testChars named inTest).2.2.2 rfl
    · exact absurd (behind _ inBack) (by decide)
  rw [readAlternative?, cutAt_of_free free, List.mapM_cons, readTest?_pad named ahead behind]
  rfl

/-- Tests that are joined by an operator are read one by one, each with the blanks that the operator
leaves around it. -/
theorem mapM_cutAt_joined {α : Type} {sign : Char} {read : List Char → Option α}
    {value : String → α} {first : String} {rest : List String}
    (free : ∀ name ∈ first :: rest, sign ∉ testChars name) (solid : isSpace sign = false)
    (reads : ∀ name ∈ first :: rest, ∀ before after : List Char,
      (∀ c ∈ before, isSpace c = true) → (∀ c ∈ after, isSpace c = true) →
      read (before ++ testChars name ++ after) = some (value name))
    {before : List Char} (ahead : ∀ c ∈ before, isSpace c = true) :
    (cutAt sign (before ++ testChars first ++
      rest.flatMap fun name => ' ' :: sign :: sign :: ' ' :: testChars name)).mapM read =
      some ((first :: rest).map value) := by
  have blank : ∀ c ∈ [' '], isSpace c = true := by
    intro c member
    rw [List.mem_singleton.mp member]
    rfl
  have outside {cs : List Char} (spaces : ∀ c ∈ cs, isSpace c = true) : sign ∉ cs := by
    intro member
    rw [spaces sign member] at solid
    cases solid
  induction rest generalizing first before with
  | nil =>
      have piece : sign ∉ before ++ testChars first := by
        rw [List.mem_append, not_or]
        exact ⟨outside ahead, free first List.mem_cons_self⟩
      have test := reads first List.mem_cons_self before [] ahead (by simp)
      rw [List.append_nil] at test
      rw [List.flatMap_nil, List.append_nil, cutAt_of_free piece, List.mapM_cons, test]
      rfl
  | cons second rest ih =>
      have piece : sign ∉ before ++ testChars first ++ [' '] := by
        rw [List.mem_append, List.mem_append, not_or, not_or]
        exact ⟨⟨outside ahead, free first List.mem_cons_self⟩, outside blank⟩
      have layout : before ++ testChars first ++
          (second :: rest).flatMap (fun name => ' ' :: sign :: sign :: ' ' :: testChars name) =
          (before ++ testChars first ++ [' ']) ++ sign :: sign :: ([' '] ++ testChars second ++
            rest.flatMap fun name => ' ' :: sign :: sign :: ' ' :: testChars name) := by
        simp only [List.flatMap_cons, List.append_assoc, List.cons_append, List.nil_append]
      have others : (cutAt sign ([' '] ++ testChars second ++ rest.flatMap fun name =>
          ' ' :: sign :: sign :: ' ' :: testChars name)).mapM read =
          some ((second :: rest).map value) :=
        ih (fun name member => free name (List.mem_cons_of_mem _ member))
          (fun name member => reads name (List.mem_cons_of_mem _ member)) blank
      have test := reads first List.mem_cons_self before [' '] ahead blank
      rw [layout, cutAt_append piece, List.mapM_cons, test, others]
      rfl

end QueryBinding.Go

namespace QueryBinding.PresenceRule

open Go

/-- The text of a guard over tests of the named variables. -/
def guardOver (rule : PresenceRule) (names : List String) : String :=
  rule.operator.intercalate (names.map (· ++ ".Valid"))

theorem toList_guardOver (rule : PresenceRule) (first : String) (rest : List String) :
    (rule.guardOver (first :: rest)).toList =
      testChars first ++ rest.flatMap fun name => rule.operator.toList ++ testChars name := by
  rw [guardOver, Text.toList_intercalate_map]
  simp only [String.toList_append]
  rfl

/-- How a guard is read: the tests are alternatives of each other, or all belong to one. -/
def condition : PresenceRule → List String → Condition
  | anyKey, names => ⟨names.map ([·])⟩
  | allKeys, names => ⟨[names]⟩

theorem text_condition (rule : PresenceRule) (names : List String) :
    (rule.condition names).text = rule.guardOver names := by
  cases rule with
  | anyKey =>
      rw [condition, Condition.text, List.map_map, guardOver]
      rfl
  | allKeys =>
      rw [condition, Condition.text, List.map_singleton, String.intercalate_singleton, guardOver]
      rfl

theorem tested_condition (rule : PresenceRule) (names : List String) :
    (rule.condition names).tested = names := by
  cases rule with
  | anyKey =>
      rw [condition, Condition.tested, ← List.flatMap_def, List.flatMap_singleton']
  | allKeys =>
      rw [condition, Condition.tested, List.flatten_singleton]

theorem holds_condition (rule : PresenceRule) (names : List String)
    (valid : String → Bool) :
    (rule.condition names).holds valid = rule.holds (names.map valid) := by
  cases rule with
  | anyKey =>
      simp only [condition, Condition.holds, holds, List.any_map, Function.comp_def, List.all_cons,
        List.all_nil, Bool.and_true, id]
  | allKeys =>
      simp only [condition, Condition.holds, holds, List.any_cons, List.any_nil, Bool.or_false,
        List.all_map, Function.comp_def, id]

/-- The guard over some names is read as the tests of these names under the guard's rule. -/
theorem readCondition?_guard (rule : PresenceRule) {names : List String}
    (some_name : names ≠ []) (named : ∀ name ∈ names, isName name = true) :
    readCondition? (rule.guardOver names) = some (rule.condition names) := by
  obtain ⟨first, rest, rfl⟩ := List.exists_cons_of_ne_nil some_name
  have nothing : ∀ c ∈ ([] : List Char), isSpace c = true := by simp
  cases rule with
  | anyKey =>
      have read := @mapM_cutAt_joined _ '|' readAlternative? ([·]) first rest
        (fun name member inTest => (of_mem_testChars (named name member) inTest).2.2.1 rfl)
        (by decide) (fun name member _ _ => readAlternative?_pad (named name member)) [] nothing
      rw [readCondition?, toList_guardOver]
      exact congrArg (Option.map Condition.mk) read
  | allKeys =>
      have free : '|' ∉ (guardOver .allKeys (first :: rest)).toList := by
        rw [toList_guardOver, List.mem_append, List.mem_flatMap]
        rintro (inFirst | ⟨name, member, inRest⟩)
        · exact (of_mem_testChars (named first List.mem_cons_self) inFirst).2.2.1 rfl
        · rcases List.mem_append.mp inRest with inOperator | inTest
          · exact absurd inOperator (by decide)
          · exact (of_mem_testChars (named name (List.mem_cons_of_mem _ member)) inTest).2.2.1 rfl
      have read := @mapM_cutAt_joined _ '&' readTest? id first rest
        (fun name member inTest => (of_mem_testChars (named name member) inTest).2.2.2 rfl)
        (by decide) (fun name member _ _ => readTest?_pad (named name member)) [] nothing
      rw [List.map_id] at read
      rw [readCondition?, cutAt_of_free free, List.mapM_cons, readAlternative?, toList_guardOver]
      exact congrArg (fun tests => (tests.bind fun t => some [t]).map Condition.mk) read

end QueryBinding.PresenceRule
