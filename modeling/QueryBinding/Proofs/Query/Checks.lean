import Mathlib.Data.List.Forall2

/-! # Checks in sequence

When a sequence of checks succeeds, and with what value; and which of the things that are wrong is
the one it fails with. -/

namespace QueryBinding

variable {ε ε' α β : Type}

@[simp] theorem ok_bind (a : α) (next : α → Except ε β) : (Except.ok a >>= next) = next a := rfl

@[simp] theorem error_bind (e : ε) (next : α → Except ε β) :
    (Except.error e >>= next) = .error e := rfl

@[simp] theorem pure_eq_ok (a : α) : (pure a : Except ε α) = .ok a := rfl

@[simp] theorem map_ok (a : α) (f : α → β) : (Except.ok a : Except ε α).map f = .ok (f a) := rfl

@[simp] theorem map_error (e : ε) (f : α → β) : (Except.error e).map f = .error e := rfl

@[simp] theorem mapError_ok (a : α) (f : ε → ε') : (Except.ok a).mapError f = .ok a := rfl

@[simp] theorem mapError_error (e : ε) (f : ε → ε') :
    (Except.error e : Except ε α).mapError f = .error (f e) := rfl

theorem bind_eq_ok_iff {check : Except ε α} {next : α → Except ε β} {b : β} :
    (check >>= next) = .ok b ↔ ∃ a, check = .ok a ∧ next a = .ok b := by
  cases check <;> simp

theorem exists_of_isOk {check : Except ε α} (succeeds : check.isOk = true) :
    ∃ a, check = .ok a := by
  cases check with
  | error e => cases succeeds
  | ok a => exact ⟨a, rfl⟩

theorem map_eq_ok_iff {check : Except ε α} {f : α → β} {b : β} :
    check.map f = .ok b ↔ ∃ a, check = .ok a ∧ f a = b := by
  cases check <;> simp

/-- Other words for its failure leave the success of a check as it is. -/
theorem mapError_eq_ok_iff {check : Except ε α} {f : ε → ε'} {a : α} :
    check.mapError f = .ok a ↔ check = .ok a := by
  cases check <;> simp

/-- Checks on a list that answer `g` of what other checks answer fail where those fail. -/
theorem mapM_map_eq {γ : Type} (check : γ → Except ε α) (g : α → β) (xs : List γ) :
    xs.mapM (fun x => (check x).map g) = (xs.mapM check).map (List.map g) := by
  induction xs with
  | nil => rfl
  | cons x xs ih =>
      rw [List.mapM_cons, List.mapM_cons, ih]
      cases check x with
      | error e => rfl
      | ok a =>
          cases xs.mapM check with
          | error e => rfl
          | ok as => rfl

/-- Checks that succeed one by one succeed together. What is known of each answer is known of
all. -/
theorem exists_mapM_eq_ok {γ : Type} {check : γ → Except ε α} {shown : α → β} {known : γ → β}
    {xs : List γ} (succeeds : ∀ x ∈ xs, ∃ a, check x = .ok a ∧ shown a = known x) :
    ∃ as, xs.mapM check = .ok as ∧ as.map shown = xs.map known := by
  induction xs with
  | nil => exact ⟨[], rfl, rfl⟩
  | cons x xs ih =>
      obtain ⟨a, first, showsFirst⟩ := succeeds x List.mem_cons_self
      obtain ⟨as, rest, showsRest⟩ := ih fun y member => succeeds y (List.mem_cons_of_mem x member)
      refine ⟨a :: as, ?_, ?_⟩
      · rw [List.mapM_cons, first, rest]
        rfl
      · rw [List.map_cons, List.map_cons, showsFirst, showsRest]

theorem mapM_eq_ok_iff {γ : Type} {check : γ → Except ε α} {xs : List γ} {as : List α} :
    xs.mapM check = .ok as ↔ List.Forall₂ (fun x a => check x = .ok a) xs as := by
  induction xs generalizing as with
  | nil =>
      rw [List.mapM_nil, List.forall₂_nil_left_iff]
      exact ⟨fun h => (Except.ok.inj h).symm, fun h => congrArg _ h.symm⟩
  | cons x xs ih =>
      rw [List.mapM_cons]
      simp only [bind_eq_ok_iff, List.forall₂_cons_left_iff, ih]
      constructor
      · rintro ⟨a, first, rest, others, ⟨⟩⟩
        exact ⟨a, rest, first, others, rfl⟩
      · rintro ⟨a, rest, first, others, rfl⟩
        exact ⟨a, first, rest, others, rfl⟩

/-- What a check fails with. -/
def faultIn : Except ε α → Option ε
  | .error e => some e
  | .ok _ => none

theorem faultIn_eq_some_iff {check : Except ε α} {e : ε} :
    faultIn check = some e ↔ check = .error e := by
  cases check <;> simp [faultIn]

theorem faultIn_eq_none_iff {check : Except ε α} :
    faultIn check = none ↔ ∃ a, check = .ok a := by
  cases check <;> simp [faultIn]

theorem faultIn_map (check : Except ε α) (f : α → β) :
    faultIn (check.map f) = faultIn check := by
  cases check <;> rfl

theorem faultIn_mapError (check : Except ε α) (f : ε → ε') :
    faultIn (check.mapError f) = (faultIn check).map f := by
  cases check <;> rfl

/-- A fault of a check hides those of the checks that follow it. -/
theorem faultIn_bind {check : Except ε α} {next : α → Except ε β} {later : Option ε}
    (follows : ∀ a, check = .ok a → faultIn (next a) = later) :
    faultIn (check >>= next) = (faultIn check).or later := by
  cases check with
  | error e => rfl
  | ok a => exact follows a rfl

theorem faultIn_bind_ok (check : Except ε α) (f : α → β) :
    faultIn (check >>= fun a => .ok (f a)) = faultIn check := by
  cases check <;> rfl

theorem faultIn_mapM {γ : Type} {check : γ → Except ε α} {fault? : γ → Option ε} {xs : List γ}
    (tells : ∀ x ∈ xs, faultIn (check x) = fault? x) :
    faultIn (xs.mapM check) = xs.findSome? fault? := by
  induction xs with
  | nil => rfl
  | cons x xs ih =>
      rw [List.mapM_cons, List.findSome?_cons, ← tells x List.mem_cons_self]
      cases check x with
      | error e => rfl
      | ok a =>
          refine (faultIn_bind_ok (xs.mapM check) (a :: ·)).trans ?_
          exact ih fun y member => tells y (List.mem_cons_of_mem x member)

end QueryBinding
