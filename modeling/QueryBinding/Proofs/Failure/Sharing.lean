import QueryBinding.Proofs.Failure.Counting

/-! # Failures that are held together

What is held reads the same whatever else is cloned, dropped or used up, and a counter tells whether
there is another reference: a note that is added is taken apart only where nobody can see it. Main
statements: `read_act` and `read_addNote`. -/

namespace QueryBinding

namespace Store

/-- Every reference to a cell of the heap is counted. -/
def Counted (s : Store) : Prop := Heap.Counted s.held s.heap

variable {s t u : Store} {action : Action} {place base note root top : Nat} {f g : Failure}

theorem act_clone (step : s.act (.clone place) = some t) :
    place ∈ s.held ∧ t = ⟨s.heap.retain place, place :: s.held⟩ := by
  rw [act] at step
  split at step
  case isTrue mem => exact ⟨mem, (Option.some.inj step).symm⟩
  case isFalse => cases step

theorem act_drop (step : s.act (.drop place) = some t) :
    place ∈ s.held ∧ t = ⟨s.heap.release place, s.held.erase place⟩ := by
  rw [act] at step
  split at step
  case isTrue mem => exact ⟨mem, (Option.some.inj step).symm⟩
  case isFalse => cases step

theorem act_addNote (step : s.act (.addNote base note) = some t) :
    base ∈ s.held ∧ note ∈ s.held.erase base ∧ ∃ cause, s.heap.lent note = some cause ∧
      t = ⟨⟨cause, some base, 1⟩ :: s.heap.release note,
        s.heap.length :: (s.held.erase base).erase note⟩ := by
  rw [act] at step
  split at step
  case isTrue both =>
    obtain ⟨cause, lends, rfl⟩ := Option.map_eq_some_iff.mp step
    exact ⟨both.1, both.2, cause, lends, rfl⟩
  case isFalse => cases step

/-- Without the two references that are used up when a note is added, the others are left. -/
theorem counted_left (counted : s.Counted) (base_held : base ∈ s.held)
    (note_held : note ∈ s.held.erase base) :
    Heap.Counted (note :: base :: (s.held.erase base).erase note) s.heap :=
  Heap.Counted.perm ((List.perm_cons_erase base_held).trans
    (((List.perm_cons_erase note_held).cons base).trans (.swap _ _ _))) counted

theorem counted_act (counted : s.Counted) (step : s.act action = some t) : t.Counted := by
  cases action with
  | make cause =>
      cases step
      exact Heap.Counted.cons cause none counted
  | clone place =>
      obtain ⟨mem, rfl⟩ := act_clone step
      exact Heap.Counted.retain counted mem
  | drop place =>
      obtain ⟨mem, rfl⟩ := act_drop step
      exact (Heap.Counted.perm (List.perm_cons_erase mem) counted).release
  | addNote base note =>
      obtain ⟨base_held, note_held, cause, -, rfl⟩ := act_addNote step
      have left := counted_left counted base_held note_held
      have made := Heap.Counted.cons cause (some base) left.release
      rwa [Heap.length_release] at made

theorem Reached.counted (reached : s.Reached) : s.Counted := by
  induction reached with
  | start => rfl
  | act action before step ih => exact counted_act ih step

theorem Reached.exists_read (reached : s.Reached) (held : place ∈ s.held) :
    ∃ f, s.read place = some f :=
  Heap.Counted.exists_read reached.counted held

/-- A counter is the number of references, from holders and from other failures. -/
theorem Counted.owners_eq (counted : s.Counted) (place : Nat) :
    s.heap.owners place = s.references place :=
  Heap.Counted.owners_eq counted place

theorem length_act (step : s.act action = some t) : s.heap.length ≤ t.heap.length := by
  cases action with
  | make cause =>
      cases step
      exact Nat.le_succ _
  | clone place =>
      obtain ⟨-, rfl⟩ := act_clone step
      exact Nat.le_of_eq (Heap.length_retain _ _).symm
  | drop place =>
      obtain ⟨-, rfl⟩ := act_drop step
      exact Nat.le_of_eq (Heap.length_release _ _).symm
  | addNote base note =>
      obtain ⟨-, -, cause, -, rfl⟩ := act_addNote step
      exact Nat.le_succ_of_le (Nat.le_of_eq (Heap.length_release _ _).symm)

/-- A failure that is not held any more is not held again. -/
theorem held_of_act (step : s.act action = some t) (old : place < s.heap.length)
    (held : place ∈ t.held) : place ∈ s.held := by
  have not_new : place ≠ s.heap.length := Nat.ne_of_lt old
  cases action with
  | make cause =>
      cases step
      exact (List.mem_cons.mp held).resolve_left not_new
  | clone cloned =>
      obtain ⟨mem, rfl⟩ := act_clone step
      rcases List.mem_cons.mp held with rfl | others
      · exact mem
      · exact others
  | drop dropped =>
      obtain ⟨-, rfl⟩ := act_drop step
      exact List.mem_of_mem_erase held
  | addNote base note =>
      obtain ⟨-, -, cause, -, rfl⟩ := act_addNote step
      have left := (List.mem_cons.mp held).resolve_left not_new
      exact List.mem_of_mem_erase (List.mem_of_mem_erase left)

theorem read_act (counted : s.Counted) (step : s.act action = some t) (before : place ∈ s.held)
    (after : place ∈ t.held) : t.read place = s.read place := by
  have old : place < s.heap.length := Heap.Counted.lt_length counted before
  cases action with
  | make cause =>
      cases step
      exact Heap.read_cons_of_lt old
  | clone cloned =>
      obtain ⟨mem, rfl⟩ := act_clone step
      exact Heap.Counted.read_retain counted mem place
  | drop dropped =>
      obtain ⟨mem, rfl⟩ := act_drop step
      exact (Heap.Counted.perm (List.perm_cons_erase mem) counted).read_release after
  | addNote base note =>
      obtain ⟨base_held, note_held, cause, -, rfl⟩ := act_addNote step
      have left := (List.mem_cons.mp after).resolve_left (Nat.ne_of_lt old)
      have same := (counted_left counted base_held note_held).read_release
        (List.mem_cons_of_mem base left)
      rw [read, Heap.read_cons_of_lt (by rwa [Heap.length_release]), same]
      rfl

/-- Whoever holds a failure and a note can add the one to the other. -/
theorem Counted.exists_addNote (counted : s.Counted) (base_held : base ∈ s.held)
    (note_held : note ∈ s.held.erase base) : ∃ t, s.act (.addNote base note) = some t := by
  have mem := List.mem_of_mem_erase note_held
  obtain ⟨g, reads⟩ := Heap.Counted.exists_read counted mem
  rw [act, if_pos ⟨base_held, note_held⟩, Heap.Counted.lent_eq counted mem reads]
  exact ⟨_, rfl⟩

/-- A note that is added gives its cause if nothing else refers to it and its text otherwise. -/
theorem read_addNote (counted : s.Counted) (step : s.act (.addNote base note) = some t)
    (base_reads : s.read base = some f) (note_reads : s.read note = some g) :
    t.read s.heap.length = some (f.withNote g (s.references note ≠ 1)) := by
  obtain ⟨base_held, note_held, cause, lends, rfl⟩ := act_addNote step
  have left := counted_left counted base_held note_held
  have under := (left.read_release List.mem_cons_self).trans base_reads
  have made := Heap.read_cons_above cause under
  rw [Heap.length_release] at made
  rw [Heap.Counted.lent_eq counted (List.mem_of_mem_erase note_held) note_reads,
    counted.owners_eq] at lends
  rw [read, made, Failure.withNote, ← Option.some.inj lends]
  by_cases alone : s.references note = 1
  · simp only [alone, ne_eq, not_true, decide_false, if_true, Bool.false_eq_true, if_false]
  · simp only [alone, ne_eq, not_false_iff, decide_true, if_true, if_false]

end Store

end QueryBinding
