import QueryBinding.Proofs.Text.Joined
import QueryBinding.Table
import Mathlib.Data.List.Basic

/-! # Dotted table names

In a dotted name MySQL takes a doubled back quote inside a part for one back quote. The spelling for
its bulk interface leaves back quotes as they are. Main statement: `spelling_identifies_iff`, that a
spelled table is read as its own parts exactly if none of them holds a back quote. -/

namespace QueryBinding

/-- One character of a part, by MySQL's rule for parts between back quotes. -/
def doubledChar (c : Char) : List Char := if c = '\x60' then ['\x60', '\x60'] else [c]

/-- A part between back quotes, by MySQL's rule. -/
def quotedPart (part : String) : String :=
  String.ofList ('\x60' :: part.toList.flatMap doubledChar ++ ['\x60'])

/-- The dotted name that MySQL reads as the given parts. -/
def dottedName (parts : List String) : String := ".".intercalate (parts.map quotedPart)

theorem readBackQuoted_doubled {part rest : List Char} (ends : rest.head? ≠ some '\x60') :
    readBackQuoted (part.flatMap doubledChar ++ '\x60' :: rest) = some (part, rest) := by
  induction part with
  | nil =>
      cases rest with
      | nil => rfl
      | cons c rest =>
          rw [List.flatMap_nil, List.nil_append, readBackQuoted]
          intro tail same
          cases same
          exact ends rfl
  | cons c part ih =>
      rw [List.flatMap_cons, doubledChar, List.append_assoc]
      by_cases quote : c = '\x60'
      · rw [if_pos quote, quote, List.cons_append, List.cons_append, List.nil_append,
          readBackQuoted, ih]
        rfl
      · rw [if_neg quote, List.cons_append, List.nil_append, readBackQuoted, ih]
        · rfl
        · exact fun _ same _ => quote same
        · exact quote

theorem doubled_of_readBackQuoted {cs part rest : List Char}
    (read : readBackQuoted cs = some (part, rest)) :
    cs = part.flatMap doubledChar ++ '\x60' :: rest ∧ rest.head? ≠ some '\x60' := by
  fun_induction readBackQuoted cs generalizing part rest with
  | case1 => cases read
  | case2 tail ih =>
      obtain ⟨⟨inner, behind⟩, inside, same⟩ := Option.bind_eq_some_iff.mp read
      cases same
      obtain ⟨spelled, ends⟩ := ih inside
      exact ⟨congrArg (['\x60', '\x60'] ++ ·) spelled, ends⟩
  | case3 tail no_quote =>
      cases read
      refine ⟨rfl, ?_⟩
      intro quote
      obtain ⟨behind, same⟩ := List.head?_eq_some_iff.mp quote
      exact no_quote behind same
  | case4 c tail no_double no_quote ih =>
      obtain ⟨⟨inner, behind⟩, inside, same⟩ := Option.bind_eq_some_iff.mp read
      cases same
      obtain ⟨spelled, ends⟩ := ih inside
      refine ⟨?_, ends⟩
      rw [List.flatMap_cons, doubledChar, if_neg no_quote]
      exact congrArg (c :: ·) spelled

/-- A part behind its period. -/
def furtherPart (part : List Char) : List Char :=
  '.' :: '\x60' :: (part.flatMap doubledChar ++ ['\x60'])

theorem head_furtherParts (parts : List (List Char)) :
    (parts.flatMap furtherPart).head? ≠ some '\x60' := by
  cases parts with
  | nil => exact nofun
  | cons part parts =>
      rw [List.flatMap_cons, furtherPart, List.cons_append, List.head?_cons]
      decide

theorem furtherParts_cons (part : List Char) (parts : List (List Char)) :
    (part :: parts).flatMap furtherPart =
      '.' :: '\x60' :: (part.flatMap doubledChar ++ '\x60' :: parts.flatMap furtherPart) := by
  rw [List.flatMap_cons, furtherPart, List.cons_append, List.cons_append, List.append_assoc]
  rfl

theorem readDottedParts_furtherParts {parts : List (List Char)} {fuel : Nat}
    (enough : parts.length ≤ fuel) :
    readDottedParts fuel (parts.flatMap furtherPart) = some parts := by
  induction parts generalizing fuel with
  | nil =>
      rw [List.flatMap_nil, readDottedParts]
  | cons part parts ih =>
      cases fuel with
      | zero => cases enough
      | succ fuel =>
          rw [furtherParts_cons, readDottedParts, readBackQuoted_doubled (head_furtherParts parts),
            Option.bind_eq_bind, Option.bind_some]
          change (readDottedParts fuel (parts.flatMap furtherPart)).bind _ = _
          rw [ih (Nat.le_of_succ_le_succ enough)]
          rfl

theorem furtherParts_of_readDottedParts {fuel : Nat} {cs : List Char} {parts : List (List Char)}
    (read : readDottedParts fuel cs = some parts) : cs = parts.flatMap furtherPart := by
  fun_induction readDottedParts fuel cs generalizing parts with
  | case1 =>
      cases read
      rfl
  | case2 fuel rest ih =>
      obtain ⟨⟨part, behind⟩, inside, read⟩ := Option.bind_eq_some_iff.mp read
      obtain ⟨further, after, same⟩ := Option.bind_eq_some_iff.mp read
      cases same
      rw [furtherParts_cons, (doubled_of_readBackQuoted inside).1, ih behind after]
  | case3 => cases read

theorem toList_dottedName_cons (first : String) (rest : List String) :
    (dottedName (first :: rest)).toList =
      '\x60' :: (first.toList.flatMap doubledChar ++
        '\x60' :: (rest.map String.toList).flatMap furtherPart) := by
  rw [dottedName, Text.toList_intercalate_map, List.flatMap_map, quotedPart, String.toList_ofList,
    List.cons_append, List.cons_append, List.append_assoc]
  simp only [quotedPart, String.toList_ofList]
  rfl

/-- The reader takes exactly the names that follow the rule, and takes each of them in one way. -/
theorem readDottedName_eq_some_iff {text : String} {parts : List String} :
    readDottedName text = some parts ↔ text = dottedName parts := by
  constructor
  · intro read
    apply String.toList_inj.mp
    unfold readDottedName at read
    split at read
    · next chars =>
        cases read
        exact chars
    · next rest chars =>
        obtain ⟨⟨first, behind⟩, inside, read⟩ := Option.bind_eq_some_iff.mp read
        obtain ⟨further, after, same⟩ := Option.bind_eq_some_iff.mp read
        cases same
        rw [chars, (doubled_of_readBackQuoted inside).1, furtherParts_of_readDottedParts after,
          List.map_cons, toList_dottedName_cons, List.map_map]
        simp only [String.toList_ofList, Function.comp_def, List.map_id']
    · cases read
  · rintro rfl
    cases parts with
    | nil => rfl
    | cons first rest =>
        have enough := Text.length_le_flatMap furtherPart (fun _ => List.cons_ne_nil _ _)
          (rest.map String.toList)
        rw [readDottedName, toList_dottedName_cons]
        change (readBackQuoted _).bind _ = _
        rw [readBackQuoted_doubled (head_furtherParts _), Option.bind_some]
        change (readDottedParts _ _).bind _ = _
        rw [readDottedParts_furtherParts enough, Option.bind_some, List.map_cons, List.map_map]
        simp only [String.ofList_toList, Function.comp_def, List.map_id']

theorem length_doubled (cs : List Char) :
    (cs.flatMap doubledChar).length = cs.length + cs.count '\x60' := by
  induction cs with
  | nil => rfl
  | cons c cs ih =>
      rw [List.flatMap_cons, List.length_append, ih, List.length_cons, doubledChar]
      by_cases quote : c = '\x60'
      · rw [if_pos quote, quote, List.count_cons_self, List.length_cons, List.length_singleton]
        omega
      · rw [if_neg quote, List.count_cons_of_ne quote, List.length_singleton]
        omega

namespace TableName

theorem length_quotedPart (part : String) :
    (quotedPart part).length = (backQuoted part).length + part.toList.count '\x60' := by
  rw [quotedPart, String.length_ofList, List.length_append, List.length_cons, length_doubled,
    backQuoted, String.length_append, String.length_append, ← String.length_toList (s := part)]
  have one : "\x60".length = 1 := rfl
  rw [one, List.length_singleton]
  omega

theorem length_dottedName (parts : List String) :
    (dottedName parts).length =
      (".".intercalate (parts.map backQuoted)).length +
        (parts.flatMap String.toList).count '\x60' := by
  rw [dottedName]
  induction parts with
  | nil => rfl
  | cons part parts ih =>
      cases parts with
      | nil =>
          rw [List.map_cons, List.map_nil, List.map_cons, List.map_nil, List.flatMap_cons,
            List.flatMap_nil, List.append_nil, String.intercalate_singleton,
            String.intercalate_singleton, length_quotedPart]
      | cons second parts =>
          simp only [List.map_cons, String.intercalate_cons_cons, String.length_append,
            length_quotedPart, List.flatMap_cons, List.count_append] at ih ⊢
          omega

theorem quotedPart_eq {part : String} (free : '\x60' ∉ part.toList) :
    quotedPart part = backQuoted part := by
  have plain : part.toList.flatMap doubledChar = part.toList := by
    calc part.toList.flatMap doubledChar
      _ = part.toList.flatMap fun c => [c] := by
          apply List.flatMap_congr
          intro c member
          refine if_neg ?_
          rintro rfl
          exact free member
      _ = part.toList := List.flatMap_singleton' part.toList
  apply String.toList_inj.mp
  rw [quotedPart, plain, String.toList_ofList, backQuoted, String.toList_append,
    String.toList_append]
  rfl

/-- The spelling of parts follows the rule exactly if they are free of back quotes. -/
theorem spelled_eq_dottedName_iff {parts : List String} :
    ".".intercalate (parts.map backQuoted) = dottedName parts ↔
      ∀ part ∈ parts, '\x60' ∉ part.toList := by
  constructor
  · intro same part member quote
    -- A back quote inside would make the name by the rule the longer of the two.
    have longer := length_dottedName parts
    rw [← same] at longer
    have none_inside : (parts.flatMap String.toList).count '\x60' = 0 := by omega
    exact List.count_eq_zero.mp none_inside (List.mem_flatMap.mpr ⟨part, member, quote⟩)
  · intro free
    rw [dottedName, List.map_congr_left fun part member => quotedPart_eq (free part member)]

/-- A spelled table is read as the parts of its name exactly if none of them holds a back quote. Two
tables without back quotes are spelled alike exactly if they have the same parts. -/
theorem spelling_identifies_iff (t : TableName) :
    (readDottedName (t.spelled .mysql) = some t.parts ↔
      ∀ part ∈ t.parts, '\x60' ∉ part.toList) ∧
    ∀ u : TableName, (∀ part ∈ t.parts, '\x60' ∉ part.toList) →
      (∀ part ∈ u.parts, '\x60' ∉ part.toList) →
      (t.spelled .mysql = u.spelled .mysql ↔ t.parts = u.parts) := by
  constructor
  · rw [readDottedName_eq_some_iff, spelled, spelled_eq_dottedName_iff]
  · intro u free free'
    constructor
    · intro same
      have read := readDottedName_eq_some_iff.mpr (spelled_eq_dottedName_iff.mpr free)
      have read' := readDottedName_eq_some_iff.mpr (spelled_eq_dottedName_iff.mpr free')
      exact Option.some.inj (read.symm.trans ((congrArg readDottedName same).trans read'))
    · intro same
      rw [spelled, spelled, same]

/-- Periods and other quotes inside a part do no harm. -/
theorem spelling_identifies_iff_periods :
    let t : TableName := { schema := some "x.\"y\"", name := some "z" }
    let u : TableName := { name := some "x.\"y\".z" }
    (∀ part ∈ t.parts, '\x60' ∉ part.toList) ∧ (∀ part ∈ u.parts, '\x60' ∉ part.toList) ∧
      readDottedName (t.spelled .mysql) = some ["x.\"y\"", "z"] ∧
      t.spelled .mysql ≠ u.spelled .mysql := by
  intro t u
  have free : ∀ part ∈ t.parts, '\x60' ∉ part.toList := by decide
  have free' : ∀ part ∈ u.parts, '\x60' ∉ part.toList := by decide
  obtain ⟨read, alike⟩ := t.spelling_identifies_iff
  refine ⟨free, free', read.mpr free, ?_⟩
  intro same
  exact absurd ((alike u free free').mp same) (by decide)

/-- A part that holds the quotes and the period of two parts is spelled as those two. -/
theorem spelled_merges_parts :
    let t : TableName := { schema := some "a", name := some "b" }
    let u : TableName := { name := some "a\x60.\x60b" }
    t.spelled .mysql = "\x60a\x60.\x60b\x60" ∧ u.spelled .mysql = "\x60a\x60.\x60b\x60" ∧
      t.parts ≠ u.parts ∧ readDottedName (u.spelled .mysql) = some t.parts := by
  decide

end TableName

end QueryBinding
