import Mathlib.Logic.Function.Iterate
import QueryBinding.Proofs.GoType.RoundTrip

/-! # Layers around the types of embeds

`sql.Null[T]` is the one layer that can be taken off a type, and a type may have any number of them.
Whether an embed's type has one shows in the text the type is read from. Inside its layers the type
of an embed is that of a struct, which the text of the type does not say. -/

namespace QueryBinding.GoType

theorem text_ne_text_null (t : GoType) : t.text ≠ (null t).text := by
  intro same
  have lengths := congrArg String.length same
  simp only [text, String.length_append] at lengths
  have opening : "sql.Null[".length = 9 := rfl
  omega

theorem stripNull_eq_self_iff {t : GoType} : t.stripNull = t ↔ ∀ inner, t ≠ null inner := by
  constructor
  · rintro same inner rfl
    exact text_ne_text_null inner (congrArg text same)
  · intro bare
    unfold stripNull
    split
    · next inner => exact absurd rfl (bare inner)
    · rfl

/-- A layer that is taken off leaves a shorter text. -/
theorem stripNull_eq_self_of_text {t : GoType} (same : t.stripNull.text = t.text) :
    t.stripNull = t := by
  rw [stripNull_eq_self_iff]
  rintro inner rfl
  exact text_ne_text_null inner same

theorem asRecord_eq_null_iff {t : GoType} :
    (∃ inner, t.asRecord = null inner) ↔ ∃ inner, t = null inner := by
  cases t with
  | null inner => exact iff_of_true ⟨_, rfl⟩ ⟨_, rfl⟩
  | _ => exact iff_of_false nofun nofun

theorem parse_eq_null_iff {text : String} :
    (∃ inner, parse text = null inner) ↔ ∃ inner : String, text = "sql.Null[" ++ inner ++ "]" := by
  constructor
  · rintro ⟨inner, read⟩
    refine ⟨inner.text, ?_⟩
    rw [← text_parse text, read, GoType.text]
  · rintro ⟨inner, rfl⟩
    exact ⟨parse inner, parse_null inner⟩

/-- The type of an embed is wrapped if its text is, whatever the text encloses. -/
theorem stripNull_asRecord_parse_iff {text : String} :
    (parse text).asRecord.stripNull = (parse text).asRecord ↔
      ∀ inner : String, text ≠ "sql.Null[" ++ inner ++ "]" := by
  rw [stripNull_eq_self_iff, ← not_exists, ← not_exists, asRecord_eq_null_iff, parse_eq_null_iff]

/-- What is left of a type when all its outer layers of `sql.Null[T]` are taken off. -/
def core : GoType → GoType
  | null inner => inner.core
  | t => t

/-- How many layers of `sql.Null[T]` enclose the core of a type. -/
def layers : GoType → Nat
  | null inner => inner.layers + 1
  | _ => 0

theorem exists_null_iff {t : GoType} : (∃ inner, t = null inner) ↔ 0 < t.layers := by
  cases t with
  | null inner => exact iff_of_true ⟨inner, rfl⟩ (Nat.succ_pos _)
  | _ => exact iff_of_false nofun (Nat.lt_irrefl 0)

@[simp] theorem core_stripNull (t : GoType) : t.stripNull.core = t.core := by
  cases t <;> rfl

@[simp] theorem layers_stripNull (t : GoType) : t.stripNull.layers = t.layers - 1 := by
  cases t <;> rfl

/-- Each layer adds its own text. -/
theorem length_text (t : GoType) : t.text.length = t.core.text.length + 10 * t.layers := by
  induction t with
  | null inner ih =>
      have opening : "sql.Null[".length = 9 := rfl
      have closing : "]".length = 1 := rfl
      simp only [text, core, layers, String.length_append]
      omega
  | _ => rfl

theorem text_eq_text_core_iff {t : GoType} : t.text = t.core.text ↔ t.layers = 0 := by
  constructor
  · intro same
    have lengths := length_text t
    rw [same] at lengths
    omega
  · intro bare
    cases t with
    | null inner => cases bare
    | _ => rfl

/-! ## Types of embeds -/

@[simp] theorem text_asRecord (t : GoType) : t.asRecord.text = t.text := by
  induction t with
  | null inner ih => rw [asRecord, text, text, ih]
  | _ => rfl

@[simp] theorem asRecord_asRecord (t : GoType) : t.asRecord.asRecord = t.asRecord := by
  induction t with
  | null inner ih => rw [asRecord, asRecord, ih]
  | _ => rfl

@[simp] theorem stripNull_asRecord (t : GoType) : t.asRecord.stripNull = t.stripNull.asRecord := by
  cases t <;> rfl

theorem iterate_stripNull_asRecord (depth : Nat) (t : GoType) :
    stripNull^[depth] t.asRecord = (stripNull^[depth] t).asRecord :=
  Function.Commute.iterate_left stripNull_asRecord depth t

@[simp] theorem isList_asRecord (t : GoType) : t.asRecord.isList = t.isList := by
  cases t <;> rfl

@[simp] theorem layers_asRecord (t : GoType) : t.asRecord.layers = t.layers := by
  induction t with
  | null inner ih => rw [asRecord, layers, layers, ih]
  | _ => rfl

@[simp] theorem core_asRecord (t : GoType) : t.asRecord.core = t.core.asRecord := by
  induction t with
  | null inner ih => rw [asRecord, core, core, ih]
  | _ => rfl

theorem asRecord_eq_record_iff {t : GoType} {name : String} :
    t.asRecord = record name ↔ t = named name ∨ t = record name := by
  cases t <;> simp [asRecord]

theorem asRecord_eq_self_iff {t : GoType} : t.asRecord = t ↔ ∀ name, t.core ≠ named name := by
  induction t with
  | null inner ih => rw [asRecord, core, null.injEq, ih]
  | named name => exact iff_of_false nofun fun other => other name rfl
  | _ => exact iff_of_true rfl nofun

end QueryBinding.GoType
