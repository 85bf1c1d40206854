import QueryBinding.Text.Case
import QueryBinding.Text.Letter

/-! # Lower case gives no capitals

The tables of case mappings and of capitals are lists of runs. The images of a shift are a run
again, and two runs have nothing in common if they do not overlap or if their members alternate.
Main statement: `lowered_settles`, that a character in lower case is left as it is or begins with
one that is no capital. -/

namespace QueryBinding.Text

/-- The run that a shift maps its own onto. -/
def Shift.images (s : Shift) : Run :=
  ⟨s.target, s.target + (s.run.last - s.run.first), s.run.step⟩

theorem Shift.contains_images {s : Shift} {n image : Nat} (found : s.image? n = some image) :
    s.images.contains image = true := by
  rw [image?] at found
  split at found
  · next inside =>
      cases found
      obtain ⟨first, last, steps⟩ := Run.contains_iff.mp inside
      refine Run.contains_iff.mpr ⟨Nat.le_add_right _ _, ?_, ?_⟩
      · exact Nat.add_le_add_left (Nat.sub_le_sub_right last _) _
      · rwa [images, Nat.add_sub_cancel_left]
  · cases found

/-- Whether two runs have nothing in common: one ends before the other begins, or their members
alternate. -/
def Run.isApart (r other : Run) : Bool :=
  Nat.blt r.last other.first || Nat.blt other.last r.first ||
    ((r.step == 2 || r.first == r.last) && other.step == 2 && (r.first + other.first) % 2 == 1)

theorem Run.not_contains_of_isApart {r other : Run} {n : Nat} (apart : r.isApart other = true)
    (inside : r.contains n = true) : other.contains n = false := by
  rw [Bool.eq_false_iff]
  intro both
  obtain ⟨first, last, steps⟩ := contains_iff.mp inside
  obtain ⟨first', last', steps'⟩ := contains_iff.mp both
  simp only [isApart, Nat.blt_eq, Bool.or_eq_true, Bool.and_eq_true, beq_iff_eq] at apart
  rcases apart with (before | behind) | ⟨⟨two | one, two'⟩, odd⟩
  · omega
  · omega
  · rw [two] at steps
    rw [two'] at steps'
    omega
  · rw [two'] at steps'
    omega

theorem isApart_images : (loweringShifts.all fun s => upperRuns.all s.images.isApart) = true := by
  decide +kernel

theorem isValidChar_images : ∀ s ∈ loweringShifts,
    s.images.last < 0xD800 ∨ 0xDFFF < s.images.first ∧ s.images.last < 0x110000 := by
  decide +kernel

theorem toNat_ofNat_image {s : Shift} {n image : Nat} (shift : s ∈ loweringShifts)
    (found : s.image? n = some image) : (Char.ofNat image).toNat = image := by
  obtain ⟨first, last, -⟩ := Run.contains_iff.mp (Shift.contains_images found)
  have valid : image.isValidChar := by
    rcases isValidChar_images s shift with below | ⟨above, inside⟩
    · exact .inl (Nat.lt_of_le_of_lt last below)
    · exact .inr ⟨Nat.lt_of_lt_of_le above first, Nat.lt_of_le_of_lt last inside⟩
  rw [Char.ofNat, dif_pos valid]
  rfl

theorem isUpper_image {s : Shift} {n image : Nat} (shift : s ∈ loweringShifts)
    (found : s.image? n = some image) : isUpper (Char.ofNat image) = false := by
  rw [isUpper, Bool.eq_false_iff, ne_eq, listed_iff, toNat_ofNat_image shift found]
  rintro ⟨r, run, inside⟩
  have apart := List.all_eq_true.mp (List.all_eq_true.mp isApart_images s shift) r run
  rw [Run.not_contains_of_isApart apart (Shift.contains_images found)] at inside
  cases inside

/-- A character in lower case is the character itself or begins with one that is no capital. -/
theorem lowered_settles (c : Char) :
    lowered c = [c] ∨ ∃ d rest, lowered c = d :: rest ∧ isUpper d = false := by
  have sequences : ∀ entry ∈ loweringSequences,
      ∃ d rest, entry.2.map Char.ofNat = d :: rest ∧ isUpper d = false := by
    intro entry member
    rw [loweringSequences, List.mem_singleton] at member
    rw [member]
    exact ⟨'i', [Char.ofNat 0x307], rfl, by decide +kernel⟩
  rw [lowered, mapped]
  split
  · next image found =>
      obtain ⟨before, behind, table, -⟩ := List.lookup_eq_some_iff.mp found
      have listed : (c.toNat, image) ∈ loweringSequences := by
        rw [table]
        exact List.mem_append_right _ List.mem_cons_self
      exact .inr (sequences _ listed)
  · split
    · next image found =>
        obtain ⟨s, shift, own⟩ := List.exists_of_findSome?_eq_some found
        exact .inr ⟨_, [], rfl, isUpper_image shift own⟩
    · exact .inl rfl

end QueryBinding.Text
