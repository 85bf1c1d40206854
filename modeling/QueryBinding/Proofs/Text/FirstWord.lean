import Mathlib.Data.List.Basic
import QueryBinding.Text.Words

/-! # Names with their first word in lower case

The capitals of a name's first word are lowered together, and the name does not tell afterwards how
many there were: `XY` and `Xy` both give `xy`. Main statement: `lowerFirst_inj`, that names whose
first words are capitals of ASCII come out alike only if these words differ in length. -/

namespace QueryBinding.Text

/-- The first word has all capitals that a name begins with, or of several all but the last. -/
theorem firstWordLength_cases (cs : List Char) :
    firstWordLength cs = (cs.takeWhile isUpper).length ∨
      1 < (cs.takeWhile isUpper).length ∧
        firstWordLength cs = (cs.takeWhile isUpper).length - 1 := by
  unfold firstWordLength
  split
  · next none_upper => exact .inl (by rw [none_upper]; rfl)
  · next one => exact .inl (by rw [one]; rfl)
  · exact .inl rfl
  · next not_empty not_one goes_on =>
      split
      · exact .inl rfl
      · refine .inr ⟨?_, rfl⟩
        cases run : cs.takeWhile isUpper with
        | nil => exact absurd run not_empty
        | cons c more =>
            cases more with
            | nil => exact absurd run (not_one c)
            | cons d more => exact Nat.succ_lt_succ (Nat.succ_pos _)

theorem firstWordLength_le (cs : List Char) : firstWordLength cs ≤ cs.length := by
  have run : (cs.takeWhile isUpper).length ≤ cs.length := (List.takeWhile_prefix isUpper).length_le
  have := firstWordLength_cases cs
  omega

/-- What holds of `A` to `Z` holds of every capital of ASCII. -/
theorem of_isUpper {P : Char → Prop} (all : ∀ k : Fin 26, P (Char.ofNat (65 + k))) {c : Char}
    (capital : c.isUpper = true) : P c := by
  obtain ⟨first, last⟩ : 'A'.val ≤ c.val ∧ c.val ≤ 'Z'.val := of_decide_eq_true capital
  have first : 65 ≤ c.toNat := UInt32.le_iff_toNat_le.mp first
  have last : c.toNat ≤ 90 := UInt32.le_iff_toNat_le.mp last
  have own := all ⟨c.toNat - 65, by omega⟩
  rwa [Nat.add_sub_cancel' first, Char.ofNat_toNat] at own

theorem lowered_of_isUpper {c : Char} (capital : c.isUpper = true) : lowered c = [c.toLower] :=
  of_isUpper (P := fun c => lowered c = [c.toLower]) (by decide) capital

theorem toUpper_toLower_of_isUpper {c : Char} (capital : c.isUpper = true) :
    c.toLower.toUpper = c :=
  of_isUpper (P := fun c => c.toLower.toUpper = c) (by decide) capital

theorem toLower_ne_underscore {c : Char} (capital : c.isUpper = true) : c.toLower ≠ '_' :=
  of_isUpper (P := fun c => c.toLower ≠ '_') (by decide) capital

/-- Whether the characters that are lowered for a name are capitals of ASCII. -/
def HasPlainStart (cs : List Char) : Prop :=
  ∀ c ∈ cs.take (firstWordLength cs), c.isUpper = true

-- Decided along the list. A search through all characters would decide it too, but not in time.
instance (cs : List Char) : Decidable (HasPlainStart cs) :=
  List.decidableBAll (fun c : Char => c.isUpper = true) (cs.take (firstWordLength cs))

theorem lowerFirstChars_eq {cs : List Char} (plain : HasPlainStart cs) :
    lowerFirstChars cs =
      (cs.take (firstWordLength cs)).map Char.toLower ++ cs.drop (firstWordLength cs) := by
  rw [lowerFirstChars, List.flatMap_congr fun c member => lowered_of_isUpper (plain c member),
    ← List.map_eq_flatMap]

theorem map_toUpper_map_toLower {cs : List Char} (capitals : ∀ c ∈ cs, c.isUpper = true) :
    (cs.map Char.toLower).map Char.toUpper = cs := by
  rw [List.map_map]
  exact (List.map_congr_left fun c member => toUpper_toLower_of_isUpper (capitals c member)).trans
    cs.map_id

theorem lowerFirst_inj {x y : String} (plain : HasPlainStart x.toList)
    (plain' : HasPlainStart y.toList)
    (length : firstWordLength x.toList = firstWordLength y.toList)
    (same : lowerFirst x = lowerFirst y) : x = y := by
  have chars : lowerFirstChars x.toList = lowerFirstChars y.toList := by
    simpa only [lowerFirst, String.ofList_inj] using same
  rw [lowerFirstChars_eq plain, lowerFirstChars_eq plain'] at chars
  have lengths : ((x.toList.take (firstWordLength x.toList)).map Char.toLower).length =
      ((y.toList.take (firstWordLength y.toList)).map Char.toLower).length := by
    rw [List.length_map, List.length_map, List.length_take_of_le (firstWordLength_le _),
      List.length_take_of_le (firstWordLength_le _), length]
  obtain ⟨starts, rests⟩ := List.append_inj chars lengths
  have starts := congrArg (List.map Char.toUpper) starts
  rw [map_toUpper_map_toLower plain, map_toUpper_map_toLower plain'] at starts
  rw [← String.toList_inj, ← x.toList.take_append_drop (firstWordLength x.toList), starts, rests,
    List.take_append_drop]

/-- Lowering its first word puts no underscore at the end of a name. -/
theorem getLast?_lowerFirst {name : String} (plain : HasPlainStart name.toList)
    (ends : (lowerFirst name).toList.getLast? = some '_') : name.toList.getLast? = some '_' := by
  rw [lowerFirst, String.toList_ofList, lowerFirstChars_eq plain, List.getLast?_append] at ends
  rw [← name.toList.take_append_drop (firstWordLength name.toList), List.getLast?_append]
  cases rest : (name.toList.drop (firstWordLength name.toList)).getLast? with
  | some c =>
      rw [rest] at ends
      exact ends
  | none =>
      rw [rest, Option.none_or, List.getLast?_map, Option.map_eq_some_iff] at ends
      obtain ⟨c, last, lowered⟩ := ends
      exact absurd lowered (toLower_ne_underscore (plain c (List.mem_of_getLast? last)))

end QueryBinding.Text
