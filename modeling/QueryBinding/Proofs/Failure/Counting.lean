import QueryBinding.Failure.Shared
import Mathlib.Data.List.Basic

/-! # Cells and their counters

A counter agrees with the references there are. From the newest cell on, a cell has counted those
that come from outside the heap and from younger cells, and what it refers to itself is counted by
the older ones. What is still referred to is therefore never freed, and it reads the same whatever
else is retained or released. -/

namespace QueryBinding.Heap

/-- The references that are left to the cells behind a cell at a place. -/
def passed (c : Cell) (top : Nat) (refs : List Nat) : List Nat :=
  c.below ++ refs.filter (· ≠ top)

/-- All references to a heap are counted: those that are given, and those of its own cells. -/
def Counted : List Nat → Heap → Prop
  | refs, [] => refs = []
  | refs, c :: older =>
    c.owners = refs.count older.length ∧ Counted (passed c older.length refs) older

variable {refs other : List Nat} {h older : Heap} {c : Cell} {place top next : Nat}

theorem mem_passed (mem : place ∈ refs) (ne : place ≠ top) : place ∈ passed c top refs :=
  List.mem_append_right _ (List.mem_filter.mpr ⟨mem, decide_eq_true ne⟩)

theorem count_passed (ne : place ≠ top) :
    (passed c top refs).count place = c.below.count place + refs.count place := by
  have kept : (refs.filter (· ≠ top)).count place = refs.count place :=
    List.count_filter (p := fun x => decide (x ≠ top)) (decide_eq_true ne)
  rw [passed, List.count_append, kept]

theorem passed_cons_self : passed c top (top :: refs) = passed c top refs := by
  rw [passed, passed, List.filter_cons_of_neg]
  simp

theorem passed_cons_perm (ne : place ≠ top) :
    (passed c top (place :: refs)).Perm (place :: passed c top refs) := by
  have kept : (place :: refs).filter (· ≠ top) = place :: refs.filter (· ≠ top) :=
    List.filter_cons_of_pos (p := fun x => decide (x ≠ top)) (decide_eq_true ne)
  rw [passed, kept]
  exact List.perm_middle

theorem passed_eq (live : c.owners ≠ 0) :
    passed c top refs = c.under.toList ++ refs.filter (· ≠ top) := by
  rw [passed, Cell.below, if_neg live]

theorem Counted.perm (same : refs.Perm other) (counted : Counted refs h) : Counted other h := by
  induction h generalizing refs other with
  | nil =>
      cases counted
      exact same.nil_eq.symm
  | cons c older ih =>
      obtain ⟨own, rest⟩ := counted
      exact ⟨own.trans (same.count_eq _), ih ((same.filter _).append_left _) rest⟩

theorem owners_of_length_le (out : h.length ≤ place) : owners h place = 0 := by
  induction h with
  | nil => rfl
  | cons c older ih =>
      rw [List.length_cons] at out
      rw [owners, if_neg (by omega), ih (by omega)]

theorem Counted.owners_eq (counted : Counted refs h) (place : Nat) :
    owners h place = refs.count place + (h.flatMap Cell.below).count place := by
  induction h generalizing refs place with
  | nil =>
      cases counted
      rfl
  | cons c older ih =>
      obtain ⟨own, rest⟩ := counted
      have tail := ih rest place
      rw [List.flatMap_cons, List.count_append]
      rcases eq_or_ne place older.length with rfl | ne
      · -- no cell refers to its own place or to a younger one
        rw [owners_of_length_le (Nat.le_refl _), passed, List.count_append] at tail
        rw [owners, if_pos rfl, own]
        omega
      · rw [count_passed ne] at tail
        rw [owners, if_neg ne, tail]
        omega

theorem Counted.lt_length (counted : Counted refs h) (mem : place ∈ refs) : place < h.length := by
  by_contra out
  have zero := counted.owners_eq place
  rw [owners_of_length_le (Nat.le_of_not_lt out)] at zero
  have some_ref := List.count_pos_iff.mpr mem
  omega

theorem Counted.owners_ne_zero (counted : Counted refs (c :: older)) (mem : older.length ∈ refs) :
    c.owners ≠ 0 := by
  rw [counted.1]
  exact Nat.ne_of_gt (List.count_pos_iff.mpr mem)

/-! ## Reading -/

/-- Where reading a failure goes on behind the newest cell. -/
def behind (c : Cell) (top place : Nat) : List Nat :=
  if place = top then c.under.toList else [place]

theorem mem_passed_of_behind (live : place = top → c.owners ≠ 0) (mem : place ∈ refs)
    (goes : next ∈ behind c top place) : next ∈ passed c top refs := by
  rw [behind] at goes
  split at goes
  case isTrue same =>
    rw [passed_eq (live same)]
    exact List.mem_append_left _ goes
  case isFalse ne =>
    rw [List.mem_singleton.mp goes]
    exact mem_passed mem ne

theorem Counted.exists_read (counted : Counted refs h) (mem : place ∈ refs) :
    ∃ f, read h place = some f := by
  induction h generalizing refs place with
  | nil =>
      cases counted
      cases mem
  | cons c older ih =>
      rw [read]
      rcases eq_or_ne place older.length with rfl | ne
      · have live := counted.owners_ne_zero mem
        rw [if_pos rfl, if_neg live]
        cases under : c.under with
        | none => exact ⟨_, rfl⟩
        | some next =>
            have left : next ∈ passed c older.length refs := by
              rw [passed_eq live, under]
              exact List.mem_cons_self
            obtain ⟨f, reads⟩ := ih counted.2 left
            simp only [reads, Option.map_some]
            exact ⟨_, rfl⟩
      · rw [if_neg ne]
        exact ih counted.2 (mem_passed mem ne)

/-- What is read depends on the newest cell and on what is read behind it. -/
theorem read_cons_congr {c' : Cell} {changed : Heap} (length : changed.length = older.length)
    (cause : c'.cause = c.cause) (under : c'.under = c.under)
    (live : place = older.length → c.owners ≠ 0 ∧ c'.owners ≠ 0)
    (tail : ∀ next ∈ behind c older.length place, read changed next = read older next) :
    read (c' :: changed) place = read (c :: older) place := by
  rw [read, read, length, cause, under]
  rw [behind] at tail
  by_cases top : place = older.length
  · rw [if_pos top] at tail
    rw [if_pos top, if_pos top, if_neg (live top).1, if_neg (live top).2]
    cases below : c.under with
    | none => rfl
    | some next =>
        rw [below] at tail
        simp only [tail next List.mem_cons_self]
  · rw [if_neg top] at tail
    rw [if_neg top, if_neg top]
    exact tail place List.mem_cons_self

/-- What a note lends depends on its counter only. -/
theorem Counted.lent_eq {f : Failure} (counted : Counted refs h) (mem : place ∈ refs)
    (reads : read h place = some f) :
    lent h place = some (if owners h place = 1 then f.cause else .remark f.cause.text) := by
  induction h generalizing refs place with
  | nil => cases reads
  | cons c older ih =>
      rw [read] at reads
      rw [lent, owners]
      rcases eq_or_ne place older.length with rfl | ne
      · rw [if_pos rfl, if_neg (counted.owners_ne_zero mem)] at reads
        have cause : c.cause = f.cause := by
          split at reads
          · exact congrArg Failure.cause (Option.some.inj reads)
          · obtain ⟨_, _, made⟩ := Option.map_eq_some_iff.mp reads
            exact congrArg Failure.cause made
        rw [if_pos rfl, if_pos rfl, cause]
        split
        · rfl
        · rfl
      · rw [if_neg ne] at reads
        rw [if_neg ne, if_neg ne]
        exact ih counted.2 (mem_passed mem ne) reads

/-! ## A new cell -/

theorem read_cons_of_lt (inside : place < older.length) :
    read (c :: older) place = read older place :=
  if_neg (Nat.ne_of_lt inside)

theorem read_cons_above {base : Nat} {f : Failure} (cause : Cause)
    (reads : read older base = some f) :
    read (⟨cause, some base, 1⟩ :: older) older.length = some ⟨cause, f.causes⟩ := by
  rw [read, if_pos rfl, if_neg Nat.one_ne_zero]
  simp only [reads, Option.map_some]

theorem Counted.cons (cause : Cause) (under : Option Nat)
    (counted : Counted (under.toList ++ refs) h) :
    Counted (h.length :: refs) (⟨cause, under, 1⟩ :: h) := by
  have fresh : h.length ∉ refs := by
    intro mem
    exact Nat.lt_irrefl _ (counted.lt_length (List.mem_append_right _ mem))
  have all : refs.filter (· ≠ h.length) = refs := by
    refine List.filter_eq_self.mpr fun place mem => decide_eq_true ?_
    rintro rfl
    exact fresh mem
  refine ⟨?_, ?_⟩
  · rw [List.count_cons_self, List.count_eq_zero_of_not_mem fresh]
  · rw [passed_cons_self, passed, all]
    exact counted

/-! ## One more reference -/

theorem length_retain (h : Heap) (place : Nat) : (retain h place).length = h.length := by
  induction h with
  | nil => rfl
  | cons c older ih =>
      rw [retain]
      split
      · rfl
      · rw [List.length_cons, ih, List.length_cons]

theorem Counted.retain (counted : Counted refs h) (mem : place ∈ refs) :
    Counted (place :: refs) (retain h place) := by
  induction h generalizing refs with
  | nil =>
      cases counted
      cases mem
  | cons c older ih =>
      have ⟨own, rest⟩ := counted
      rw [Heap.retain]
      rcases eq_or_ne place older.length with rfl | ne
      · rw [if_pos rfl]
        refine ⟨?_, ?_⟩
        · rw [List.count_cons_self, own]
        · rw [passed_eq (counted.owners_ne_zero mem)] at rest
          rw [passed_cons_self, passed_eq (Nat.succ_ne_zero _)]
          exact rest
      · rw [if_neg ne]
        refine ⟨?_, ?_⟩
        · rw [length_retain, List.count_cons_of_ne ne, own]
        · rw [length_retain]
          exact (ih rest (mem_passed mem ne)).perm (passed_cons_perm ne).symm

theorem Counted.read_retain (counted : Counted refs h) (mem : place ∈ refs) (a : Nat) :
    read (Heap.retain h place) a = read h a := by
  induction h generalizing refs a with
  | nil => rfl
  | cons c older ih =>
      rw [Heap.retain]
      rcases eq_or_ne place older.length with rfl | ne
      · simp only [if_pos, read, counted.owners_ne_zero mem, Nat.succ_ne_zero]
      · have tail := ih counted.2 (mem_passed mem ne)
        simp only [if_neg ne, read, length_retain, tail]

/-! ## One reference less -/

theorem length_release (h : Heap) (place : Nat) : (release h place).length = h.length := by
  induction h generalizing place with
  | nil => rfl
  | cons c older ih =>
      rw [release]
      split
      · rw [List.length_cons, List.length_cons]
        split
        · cases c.under with
          | none => rfl
          | some next => exact congrArg (· + 1) (ih next)
        · rfl
      · rw [List.length_cons, ih, List.length_cons]

theorem Counted.release (counted : Counted (place :: refs) h) :
    Counted refs (Heap.release h place) := by
  induction h generalizing place refs with
  | nil => cases counted
  | cons c older ih =>
      have ⟨own, rest⟩ := counted
      rw [Heap.release]
      rcases eq_or_ne place older.length with rfl | ne
      · rw [List.count_cons_self] at own
        rw [passed_cons_self, passed_eq (counted.owners_ne_zero List.mem_cons_self)] at rest
        rw [if_pos rfl]
        by_cases last : c.owners = 1
        · rw [if_pos last, last]
          have none_left : 0 = refs.count older.length := by omega
          cases under : c.under with
          | none =>
              rw [under] at rest
              exact ⟨none_left, rest⟩
          | some next =>
              rw [under] at rest
              rw [Option.elim_some]
              refine ⟨?_, ?_⟩
              · rw [length_release]
                exact none_left
              · rw [length_release]
                exact ih rest
        · rw [if_neg last]
          have fewer : c.owners - 1 = refs.count older.length := by omega
          refine ⟨fewer, ?_⟩
          rw [passed_eq (by change c.owners - 1 ≠ 0; omega)]
          exact rest
      · rw [List.count_cons_of_ne ne] at own
        rw [if_neg ne]
        refine ⟨?_, ?_⟩
        · rw [length_release, own]
        · rw [length_release]
          exact ih (rest.perm (passed_cons_perm ne))

/-- What is still referred to after a release reads as before. -/
theorem Counted.read_release {a : Nat} (counted : Counted (place :: refs) h) (mem : a ∈ refs) :
    read (Heap.release h place) a = read h a := by
  induction h generalizing place refs a with
  | nil => cases counted
  | cons c older ih =>
      have ⟨own, rest⟩ := counted
      have live : a = older.length → c.owners ≠ 0 := by
        rintro rfl
        exact counted.owners_ne_zero (List.mem_cons_of_mem _ mem)
      rw [Heap.release]
      rcases eq_or_ne place older.length with rfl | ne
      · rw [List.count_cons_self] at own
        rw [passed_cons_self, passed_eq (counted.owners_ne_zero List.mem_cons_self)] at rest
        rw [if_pos rfl]
        by_cases last : c.owners = 1
        · -- the cell is freed, so what is read stands behind it
          rw [if_pos last, last]
          have elsewhere : a ≠ older.length := by
            rintro rfl
            have another := List.count_pos_iff.mpr mem
            omega
          have left : a ∈ refs.filter (· ≠ older.length) :=
            List.mem_filter.mpr ⟨mem, decide_eq_true elsewhere⟩
          cases under : c.under with
          | none =>
              exact read_cons_congr rfl rfl under.symm (fun same => absurd same elsewhere)
                fun _ _ => rfl
          | some next =>
              rw [under] at rest
              refine read_cons_congr (length_release _ _) rfl under.symm
                (fun same => absurd same elsewhere) ?_
              intro b goes
              rw [behind, if_neg elsewhere] at goes
              rw [List.mem_singleton.mp goes]
              exact ih rest left
        · rw [if_neg last]
          refine read_cons_congr rfl rfl rfl (fun same => ⟨live same, ?_⟩) fun _ _ => rfl
          have once := live same
          change c.owners - 1 ≠ 0
          omega
      · rw [if_neg ne]
        refine read_cons_congr (length_release _ _) rfl rfl (fun same => ⟨live same, live same⟩) ?_
        intro b goes
        exact ih (rest.perm (passed_cons_perm ne)) (mem_passed_of_behind live mem goes)

end QueryBinding.Heap
