import QueryBinding.Proofs.Failure.Notes
import QueryBinding.Proofs.Text.Joined

/-! # Notes with causes of their own

A note is a failure, and older causes may stand under it. The failure that it is added to takes its
newest message and no other. Main statement: `texts_kept_iff`, that the result has the messages of
both exactly if nothing stands under the note. -/

namespace QueryBinding

namespace Failure

/-- The messages of all causes, newest first. -/
def texts (f : Failure) : List String := f.causes.map Cause.text

/-- The messages of the causes under the newest one. -/
def textsUnder (f : Failure) : List String := f.under.map Cause.text

theorem texts_eq (f : Failure) : f.texts = f.cause.text :: f.textsUnder := rfl

theorem texts_ne_nil (f : Failure) : f.texts ≠ [] := List.cons_ne_nil _ _

variable (base note : Failure) (shared : Bool)

theorem texts_withNote : (base.withNote note shared).texts = note.cause.text :: base.texts := by
  cases shared with
  | false => rfl
  | true => rfl

theorem message_eq_withNote :
    (base.withNote note shared).message = note.cause.text ++ (": " ++ base.message) := by
  change ": ".intercalate (base.withNote note shared).texts = _
  rw [texts_withNote, String.intercalate_cons_of_ne_nil base.texts_ne_nil, String.append_assoc]
  rfl

theorem texts_withNotes (f : Failure) (notes : List Note) :
    (f.withNotes notes).texts = notes.map (·.failure.cause.text) ++ f.texts := by
  induction notes with
  | nil => rfl
  | cons n older ih => rw [withNotes, texts_withNote, ih, List.map_cons, List.cons_append]

/-- A chain with a note has the messages of both if the note has one message only. -/
theorem texts_sublist_withNote_iff :
    (note.texts ++ base.texts).Sublist (base.withNote note shared).texts ↔ note.under = [] := by
  rw [texts_withNote, texts_eq, List.cons_append, List.cons_sublist_cons]
  constructor
  · intro all
    have lengths := all.length_le
    rw [List.length_append, textsUnder, List.length_map] at lengths
    exact List.eq_nil_of_length_eq_zero (by omega)
  · intro bare
    rw [textsUnder, bare]
    exact List.Sublist.refl _

/-- What stands under a note is found in the message only where the message of the failure below
happens to have it. -/
theorem standIn_withNote_iff :
    Text.StandIn (note.texts ++ base.texts) (base.withNote note shared).message ↔
      Text.StandIn (note.textsUnder ++ base.texts) (": " ++ base.message) := by
  rw [message_eq_withNote, texts_eq, List.cons_append, Text.standIn_cons_append_iff]

theorem standIn_message (f : Failure) : Text.StandIn f.texts f.message :=
  Text.standIn_intercalate ": " f.texts

/-- The colons have room for two characters of what stands under a note for each message below. -/
theorem length_textsUnder_le
    (inside : Text.StandIn (note.texts ++ base.texts) (base.withNote note shared).message) :
    (note.textsUnder.flatMap String.toList).length ≤ 2 * base.texts.length := by
  have room := ((standIn_withNote_iff base note shared).mp inside).length_le
  have whole := Text.length_intercalate ": " base.texts_ne_nil
  have colon : ": ".length = 2 := rfl
  rw [String.length_append, List.flatMap_append, List.length_append] at room
  change _ ≤ ": ".length + (": ".intercalate base.texts).length at room
  rw [whole, colon] at room
  omega

end Failure

namespace Store

variable {s t : Store} {base note root top : Nat} {notes : List Note} {f : Failure}

theorem Noted.texts_top (above : s.Noted root notes t top) (counted : s.Counted)
    (held : root ∈ s.held) (reads : s.read root = some f) :
    ∃ g, t.read top = some g ∧ g.texts = notes.map (·.failure.cause.text) ++ f.texts :=
  ⟨f.withNotes notes, above.read_top counted held reads, f.texts_withNotes notes⟩

/-- A note that is held is added to a failure that is held. The result has the newest message of the
note in front of those of the failure, and tells these in full. It has all messages of the note and
of the failure exactly if nothing stands under the note. What does stand there is told only where
the message of the failure happens to have it, and not in full if it is longer than the separators.
Further notes put their newest messages in front and change nothing of this. -/
theorem texts_kept_iff (reached : s.Reached) (base_held : base ∈ s.held)
    (note_held : note ∈ s.held.erase base) :
    ∃ f g t r, s.read base = some f ∧ s.read note = some g ∧
      s.act (.addNote base note) = some t ∧ t.read s.heap.length = some r ∧
      r.texts = g.cause.text :: f.texts ∧ Text.StandIn r.texts r.message ∧
      ((g.texts ++ f.texts).Sublist r.texts ↔ g.under = []) ∧
      (Text.StandIn (g.texts ++ f.texts) r.message ↔
        Text.StandIn (g.textsUnder ++ f.texts) (": " ++ f.message)) ∧
      (g.under = [] → Text.StandIn (g.texts ++ f.texts) r.message) ∧
      (2 * f.texts.length < (g.textsUnder.flatMap String.toList).length →
        ¬ Text.StandIn (g.texts ++ f.texts) r.message) ∧
      ∀ notes u top, t.Noted s.heap.length notes u top →
        ∃ h, u.read top = some h ∧ h.texts = notes.map (·.failure.cause.text) ++ r.texts := by
  obtain ⟨f, base_reads⟩ := reached.exists_read base_held
  obtain ⟨g, note_reads⟩ := reached.exists_read (List.mem_of_mem_erase note_held)
  obtain ⟨t, step⟩ := reached.counted.exists_addNote base_held note_held
  have result_reads := read_addNote reached.counted step base_reads note_reads
  refine ⟨f, g, t, _, base_reads, note_reads, step, result_reads, f.texts_withNote g _,
    Failure.standIn_message _, f.texts_sublist_withNote_iff g _, f.standIn_withNote_iff g _,
    ?_, ?_, ?_⟩
  · intro bare
    exact (Failure.standIn_message _).sublist ((f.texts_sublist_withNote_iff g _).mpr bare)
  · intro long inside
    exact Nat.not_lt_of_le (f.length_textsUnder_le g _ inside) long
  · intro notes u top above
    have result_held : s.heap.length ∈ t.held := by
      obtain ⟨-, -, cause, -, rfl⟩ := act_addNote step
      exact List.mem_cons_self
    exact above.texts_top (counted_act reached.counted step) result_held result_reads

/-- A note that is held elsewhere still has what stands under it, and the failure that it was added
to has not. -/
theorem texts_kept_iff_shared :
    let refused := Cause.foreign "connection refused"
    let loading := Cause.remark "loading books"
    let nameless := Cause.invalidStatement .namelessQuery
    let s : Store :=
      ⟨[⟨nameless, none, 1⟩, ⟨loading, some 0, 2⟩, ⟨loading, none, 0⟩, ⟨refused, none, 1⟩],
        [2, 3, 2]⟩
    s.Reached ∧ 3 ∈ s.held ∧ 2 ∈ s.held.erase 3 ∧
      ∃ t r, s.act (.addNote 3 2) = some t ∧ t.read 4 = some r ∧
        r.texts = [loading.text, nameless.text] ∧
        t.read 2 = some ⟨loading, [refused]⟩ ∧
        ¬ Text.StandIn [loading.text, refused.text, nameless.text] r.message := by
  intro refused loading nameless s
  have reached : s.Reached :=
    .act (.clone 2) (.act (.make nameless) (.act (.addNote 0 1) (.act (.make loading)
      (.act (.make refused) .start rfl) rfl) rfl) rfl) rfl
  have base_held : 3 ∈ s.held := by decide
  have note_held : 2 ∈ s.held.erase 3 := by decide
  obtain ⟨f, g, t, r, base_reads, note_reads, step, reads, texts, -, -, -, -, lost, -⟩ :=
    texts_kept_iff reached base_held note_held
  cases base_reads
  cases note_reads
  cases step
  exact ⟨reached, base_held, note_held, _, r, rfl, reads, texts, rfl, lost (by decide)⟩

/-- The note alone is told whole, and the failure that it is added to leaves out its root. -/
theorem root_of_note_lost :
    let refused := Cause.foreign "connection refused"
    let loading := Cause.remark "loading books"
    let nameless := Cause.invalidStatement .namelessQuery
    let s : Store :=
      ⟨[⟨nameless, none, 1⟩, ⟨loading, some 0, 1⟩, ⟨loading, none, 0⟩, ⟨refused, none, 1⟩],
        [3, 2]⟩
    ∃ t g r, s.Reached ∧ s.read 2 = some g ∧ s.act (.addNote 3 2) = some t ∧ t.read 4 = some r ∧
      g.message = "loading books: connection refused" ∧
      r.message = "loading books: invalid statement: query has no name" ∧
      refused.text ∈ g.texts ∧ ¬ refused.text.toList <:+: r.message.toList := by
  intro refused loading nameless s
  have reached : s.Reached :=
    .act (.make nameless) (.act (.addNote 0 1) (.act (.make loading)
      (.act (.make refused) .start rfl) rfl) rfl) rfl
  refine ⟨_, ⟨loading, [refused]⟩, ⟨loading, [nameless]⟩, reached, rfl, rfl, rfl,
    ?_, ?_, ?_, ?_⟩
  · decide +kernel
  · decide +kernel
  · exact List.mem_cons_of_mem _ List.mem_cons_self
  · decide +kernel

end Store

end QueryBinding
