import QueryBinding.Proofs.Failure.Sharing

/-! # Notes above a failure

Notes are added to a failure one after the other, and in between it, the notes and other failures
are cloned, dropped and used up. The failure that comes out has the messages of the notes from the
newest to the oldest in front of that of the failure below. Main statement: `message_of_notes`. -/

namespace QueryBinding

/-- A note at the time it is added. -/
structure Note where
  place : Nat
  failure : Failure
  /-- Whether there is another reference to it. -/
  shared : Bool
deriving DecidableEq, Repr

namespace Failure

/-- Adds notes, newest first. -/
def withNotes (f : Failure) : List Note → Failure
  | [] => f
  | n :: older => (f.withNotes older).withNote n.failure n.shared

/-- The answers of the predicates that tell the kinds of failures apart. -/
def kinds (f : Failure) : List Bool := [f.isInvalidStatement, f.isInvalidSettings, f.isMissingKey]

theorem message_withNotes (f : Failure) {notes : List Note}
    (bare : ∀ n ∈ notes, n.failure.under = []) :
    (f.withNotes notes).message =
      ": ".intercalate (notes.map (·.failure.message) ++ [f.message]) := by
  induction notes with
  | nil => exact String.intercalate_singleton.symm
  | cons n older ih =>
      rw [List.forall_mem_cons] at bare
      rw [withNotes, message_withNote _ bare.1, ih bare.2, List.map_cons, List.cons_append]
      exact (String.intercalate_cons_of_ne_nil (List.concat_ne_nil _ _)).symm

theorem kinds_withNote (base note : Failure) (shared : Bool) :
    (base.withNote note shared).kinds = if shared then [false, false, false] else note.kinds := by
  cases shared with
  | false => rfl
  | true => rfl

end Failure

namespace Store

/-- From a store on, notes are added above a failure. Whatever is done in between leaves the failure
that has come out so far in hand. -/
inductive Noted (s : Store) (root : Nat) : List Note → Store → Nat → Prop where
  | start : Noted s root [] s root
  | between {notes : List Note} {t u : Store} {top : Nat} (action : Action)
      (above : Noted s root notes t top) (step : t.act action = some u) (held : top ∈ u.held) :
      Noted s root notes u top
  | add {notes : List Note} {t u : Store} {top : Nat} (note : Nat) (failure : Failure)
      (above : Noted s root notes t top) (reads : t.read note = some failure)
      (step : t.act (.addNote top note) = some u) :
      Noted s root (⟨note, failure, t.references note ≠ 1⟩ :: notes) u t.heap.length

variable {s t : Store} {root top : Nat} {notes : List Note}

theorem Noted.counted (above : s.Noted root notes t top) (counted : s.Counted) : t.Counted := by
  induction above with
  | start => exact counted
  | between action above step held ih => exact counted_act ih step
  | add note failure above reads step ih => exact counted_act ih step

theorem Noted.length_le (above : s.Noted root notes t top) : s.heap.length ≤ t.heap.length := by
  induction above with
  | start => exact Nat.le_refl _
  | between action above step held ih => exact Nat.le_trans ih (length_act step)
  | add note failure above reads step ih => exact Nat.le_trans ih (length_act step)

theorem Noted.held (above : s.Noted root notes t top) (held : root ∈ s.held) : top ∈ t.held := by
  cases above with
  | start => exact held
  | between action above step held => exact held
  | add note failure above reads step =>
      obtain ⟨-, -, cause, -, rfl⟩ := act_addNote step
      exact List.mem_cons_self

/-- What is held at the beginning and at the end reads the same. -/
theorem Noted.read_eq (above : s.Noted root notes t top) (counted : s.Counted) {place : Nat}
    (before : place ∈ s.held) (after : place ∈ t.held) : t.read place = s.read place := by
  have old := Heap.Counted.lt_length counted before
  induction above with
  | start => rfl
  | between action above step held ih | add note failure above reads step ih =>
      have still := held_of_act step (Nat.lt_of_lt_of_le old above.length_le) after
      exact (read_act (above.counted counted) step still after).trans (ih still)

/-- A failure that is held after an action as well reads as it did. -/
theorem keeps_act {u : Store} {action : Action} {place : Nat} {f : Failure} (counted : t.Counted)
    (step : t.act action = some u)
    (reads : place < t.heap.length ∧ (place ∈ t.held → t.read place = some f)) :
    place < u.heap.length ∧ (place ∈ u.held → u.read place = some f) := by
  refine ⟨Nat.lt_of_lt_of_le reads.1 (length_act step), fun after => ?_⟩
  have before := held_of_act step reads.1 after
  exact (read_act counted step before after).trans (reads.2 before)

/-- Whoever still holds a note reads it as it was when it was added. -/
theorem Noted.read_note (above : s.Noted root notes t top) (counted : s.Counted) :
    ∀ n ∈ notes, n.place < t.heap.length ∧ (n.place ∈ t.held → t.read n.place = some n.failure) := by
  induction above with
  | start => exact fun n mem => absurd mem List.not_mem_nil
  | between action above step held ih =>
      intro n mem
      exact keeps_act (above.counted counted) step (ih n mem)
  | add note failure above reads step ih =>
      intro n mem
      rcases List.mem_cons.mp mem with rfl | older
      · obtain ⟨-, held, -⟩ := act_addNote step
        have inside := Heap.Counted.lt_length (above.counted counted) (List.mem_of_mem_erase held)
        exact keeps_act (above.counted counted) step ⟨inside, fun _ => reads⟩
      · exact keeps_act (above.counted counted) step (ih n older)

theorem Noted.read_top {f : Failure} (above : s.Noted root notes t top) (counted : s.Counted)
    (held : root ∈ s.held) (reads : s.read root = some f) :
    t.read top = some (f.withNotes notes) := by
  induction above with
  | start => exact reads
  | between action above step still ih =>
      exact (read_act (above.counted counted) step (above.held held) still).trans ih
  | add note failure above note_reads step ih =>
      exact read_addNote (above.counted counted) step ih note_reads

/-- Notes without older causes are added to a failure in a store that actions have led to. Each may
or may not be held elsewhere at that time, and anything may be done in between. The message of the
result has the messages of the notes, the last one first, in front of that of the failure. The
result is of the kind of the last note if nothing else referred to it, and a remark with its text
otherwise. All that is still held reads as before, the notes and the failure too, and whoever holds
a further note can add it. -/
theorem message_of_notes (reached : s.Reached) (held : root ∈ s.held)
    (above : s.Noted root notes t top) (bare : ∀ n ∈ notes, n.failure.under = []) :
    ∃ f g, s.read root = some f ∧ t.read top = some g ∧
      g.message = ": ".intercalate (notes.map (·.failure.message) ++ [f.message]) ∧
      (∀ last ∈ notes.head?,
        g.cause = (if last.shared then .remark last.failure.cause.text else last.failure.cause) ∧
        g.kinds = if last.shared then [false, false, false] else last.failure.kinds) ∧
      (∀ place ∈ s.held, place ∈ t.held → t.read place = s.read place) ∧
      (∀ n ∈ notes, n.place ∈ t.held → t.read n.place = some n.failure) ∧
      ∀ note ∈ t.held.erase top, ∃ u, t.act (.addNote top note) = some u := by
  have counted := reached.counted
  obtain ⟨f, reads⟩ := reached.exists_read held
  refine ⟨f, f.withNotes notes, reads, above.read_top counted held reads,
    f.message_withNotes bare, ?_, ?_, ?_, ?_⟩
  · intro last newest
    obtain ⟨older, rfl⟩ := List.head?_eq_some_iff.mp newest
    exact ⟨rfl, Failure.kinds_withNote _ _ _⟩
  · intro place before after
    exact above.read_eq counted before after
  · intro n mem
    exact (above.read_note counted n mem).2
  · intro note note_held
    exact (above.counted counted).exists_addNote (above.held held) note_held

/-- A note that is held elsewhere lends its text, and one that is not gives its cause. -/
theorem message_of_notes_one_shared :
    let fault := Cause.missingKey "author"
    let settings := Cause.invalidSettings (.stated "no driver")
    let query := Cause.invalidStatement .namelessQuery
    let s : Store := ⟨[⟨query, none, 1⟩, ⟨settings, none, 2⟩, ⟨fault, none, 2⟩], [1, 0, 2, 1, 0]⟩
    ∃ t g, s.Reached ∧ s.Noted 0 [⟨2, ⟨query, []⟩, false⟩, ⟨1, ⟨settings, []⟩, true⟩] t 4 ∧
      t.read 4 = some g ∧
      g.message = "invalid statement: query has no name: invalid configuration: no driver: " ++
        fault.text ∧
      g.kinds = [true, false, false] ∧
      t.read 1 = some ⟨settings, []⟩ ∧ t.read 0 = some ⟨fault, []⟩ := by
  intro fault settings query s
  have reached : s.Reached :=
    .act (.clone 1) (.act (.clone 0) (.act (.make query) (.act (.make settings)
      (.act (.make fault) .start rfl) rfl) rfl) rfl) rfl
  have first : s.Noted 0 [⟨1, ⟨settings, []⟩, true⟩] _ 3 := .add 1 _ .start rfl rfl
  have both : s.Noted 0 [⟨2, ⟨query, []⟩, false⟩, ⟨1, ⟨settings, []⟩, true⟩] _ 4 :=
    .add 2 _ first rfl rfl
  obtain ⟨f, g, root, reads, message, kind, before, notes, -⟩ :=
    message_of_notes reached (by decide) both (by decide)
  cases root
  refine ⟨_, g, reached, both, reads, message.trans rfl, (kind _ rfl).2, ?_, ?_⟩
  · exact notes ⟨1, ⟨settings, []⟩, true⟩ (by decide) (by decide)
  · exact before 0 (by decide) (by decide)

end Store

end QueryBinding
