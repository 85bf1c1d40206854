import QueryBinding.Proofs.Go.Condition
import QueryBinding.Proofs.Row.Extraction
import QueryBinding.Proofs.Row.Sites

/-! # Blocks of presence lines

The lines that move nullable embeds into their slots come as one list. It falls into blocks, one for
each nullable embed, and what stands in a block follows from the embed alone. Main statement:
`presence_blocks`, with what the two rules have in common. -/

namespace QueryBinding

/-- Whether a joined table is present, by the columns of its key that are not NULL. -/
def PresenceRule.Present (rule : PresenceRule) (keys : List Column) (filled : Column → Prop) :
    Prop :=
  match rule with
  | anyKey => ∃ k ∈ keys, filled k
  | allKeys => ∀ k ∈ keys, filled k

theorem PresenceRule.holds_iff_present (rule : PresenceRule) (keys : List Column)
    (valid : Column → Bool) : rule.holds (keys.map valid) = true ↔ rule.Present keys (valid ·) := by
  cases rule with
  | anyKey => simp [holds, Present]
  | allKeys => simp [holds, Present]

theorem exists_split_cons_iff {α : Type} {p : List α → α → Prop} {x : α} {xs : List α} :
    (∃ before y after, x :: xs = before ++ y :: after ∧ p before y) ↔
      p [] x ∨ ∃ before y after, xs = before ++ y :: after ∧ p (x :: before) y := by
  constructor
  · rintro ⟨before, y, after, split, holds⟩
    cases before with
    | nil =>
        cases split
        exact .inl holds
    | cons z before =>
        cases split
        exact .inr ⟨before, y, after, rfl, holds⟩
  · rintro (holds | ⟨before, y, after, rfl, holds⟩)
    · exact ⟨[], x, xs, rfl, holds⟩
    · exact ⟨x :: before, y, after, rfl, holds⟩

theorem getElem?_ne_iff_of_tail {β : Type} {xs ys : List β} (tails : xs.tail = ys.tail) (k : Nat) :
    xs[k]? ≠ ys[k]? ↔ k = 0 ∧ xs.head? ≠ ys.head? := by
  cases k with
  | zero => simp only [List.head?_eq_getElem?, true_and]
  | succ k =>
      rw [← List.getElem?_tail, ← List.getElem?_tail, tails]
      exact iff_of_false (fun differ => differ rfl) fun first => Nat.succ_ne_zero k first.1

/-- Two concatenations of blocks that agree but in their first lines differ in these only. -/
theorem getElem?_flatMap_ne_iff {α β : Type} {g h : α → List β}
    (lengths : ∀ x, (g x).length = (h x).length) (tails : ∀ x, (g x).tail = (h x).tail)
    (xs : List α) (k : Nat) :
    (xs.flatMap g)[k]? ≠ (xs.flatMap h)[k]? ↔
      ∃ before x after, xs = before ++ x :: after ∧
        k = (before.map fun y => (g y).length).sum ∧ (g x).head? ≠ (h x).head? := by
  induction xs generalizing k with
  | nil =>
      refine iff_of_false (fun differ => differ rfl) ?_
      rintro ⟨before, x, after, split, -, -⟩
      cases before <;> cases split
  | cons x xs ih =>
      rw [List.flatMap_cons, List.flatMap_cons, exists_split_cons_iff]
      by_cases inside : k < (g x).length
      · rw [List.getElem?_append_left inside, List.getElem?_append_left (lengths x ▸ inside),
          getElem?_ne_iff_of_tail (tails x)]
        constructor
        · intro differ
          exact .inl differ
        · rintro (differ | ⟨before, y, after, -, position, -⟩)
          · exact differ
          · rw [List.map_cons, List.sum_cons] at position
            omega
      · have beyond : (g x).length ≤ k := Nat.le_of_not_lt inside
        rw [List.getElem?_append_right beyond, List.getElem?_append_right (lengths x ▸ beyond),
          ← lengths x, ih]
        constructor
        · rintro ⟨before, y, after, split, position, differ⟩
          refine .inr ⟨before, y, after, split, ?_, differ⟩
          rw [List.map_cons, List.sum_cons]
          omega
        · rintro (⟨position, differ⟩ | ⟨before, y, after, split, position, differ⟩)
          · -- A block without lines has no first line to differ in.
            rw [List.map_nil, List.sum_nil] at position
            have first : g x = [] := List.length_eq_zero_iff.mp (by omega)
            have second : h x = [] := by
              rw [← List.length_eq_zero_iff, ← lengths x, first, List.length_nil]
            rw [first, second] at differ
            exact absurd rfl differ
          · rw [List.map_cons, List.sum_cons] at position
            exact ⟨before, y, after, split, by omega, differ⟩

theorem PresenceRule.guardOver_eq_iff {names : List String} :
    anyKey.guardOver names = allKeys.guardOver names ↔ names.length ≤ 1 := by
  cases names with
  | nil => exact iff_of_true rfl (Nat.zero_le 1)
  | cons first rest =>
      cases rest with
      | nil => exact iff_of_true rfl (Nat.le_refl 1)
      | cons second rest =>
          refine iff_of_false ?_ (by simp)
          intro same
          have chars := congrArg String.toList same
          rw [toList_guardOver, toList_guardOver, List.append_cancel_left_eq] at chars
          simp [operator] at chars

namespace Field

variable (owner : String) (rule : PresenceRule) (f : Field)

/-- The lines for one field of a record: a block for a nullable embed, and none otherwise. -/
def presenceBlock : List String :=
  match f.nullableEmbed? with
  | some e => (f.materialization owner e).lines rule
  | none => []

def scratchName (c : Column) : String := owner ++ "Embed" ++ f.name ++ c.name

/-- What stands in the block of a nullable embed. -/
structure PresenceBlock (e : Embed) (lines : List String) : Prop where
  length : lines.length = e.columns.length + 5
  /-- The guard is a condition that tests the columns of the key in their order, and holds if some
  of them are valid, or all. It is read as this condition if the variables have names of Go. -/
  guard : ∃ condition : Go.Condition,
    lines[0]? = some ("if " ++ condition.text ++ " \x7b") ∧
    condition.tested = e.keys.map (f.scratchName owner) ∧
    (∀ valid : String → Bool, condition.holds valid = true ↔
      rule.Present e.keys fun k => valid (f.scratchName owner k)) ∧
    ((∀ k ∈ e.keys, Go.isName (f.scratchName owner k) = true) →
      Go.readCondition? condition.text = some condition)
  marked : lines[1]? = some ("    " ++ owner ++ "." ++ f.name ++ ".Valid = true")
  assigned : lines[2]? =
    some ("    " ++ owner ++ "." ++ f.name ++ ".V = " ++ f.type.stripNull.text ++ "\x7b")
  initialized : (lines.drop 3).take e.columns.length = e.columns.map fun c =>
    "        " ++ c.name ++ ": " ++ c.type.extraction.text (f.scratchName owner c) ++ ","
  /-- Each of these expressions reads the column's variable, and has the column's type in Go. -/
  typed : ∀ c ∈ e.columns,
    c.type.ReadBack (f.scratchName owner c) (c.type.extraction.text (f.scratchName owner c))
  closed : lines.drop (e.columns.length + 3) = ["    \x7d", "\x7d"]

variable {owner rule f}

@[simp] theorem presenceBlock_of_plain (plain : f.nullableEmbed? = none) :
    f.presenceBlock owner rule = [] := by
  simp only [presenceBlock, plain]

theorem guard_materialization (e : Embed) :
    (f.materialization owner e).guard rule = rule.guardOver (e.keys.map (f.scratchName owner)) := by
  rw [Materialization.guard, materialization, PresenceRule.guardOver, List.map_map, List.map_map]
  rfl

theorem initializers_materialization (e : Embed) :
    (f.materialization owner e).initializers.map Initializer.line = e.columns.map fun c =>
      "        " ++ c.name ++ ": " ++ c.type.extraction.text (f.scratchName owner c) ++ "," := by
  rw [materialization, List.map_map]
  rfl

theorem presenceBlock_eq {e : Embed} (nullable : f.nullableEmbed? = some e) :
    f.presenceBlock owner rule =
      ("if " ++ rule.guardOver (e.keys.map (f.scratchName owner)) ++ " \x7b") ::
      ("    " ++ owner ++ "." ++ f.name ++ ".Valid = true") ::
      ("    " ++ owner ++ "." ++ f.name ++ ".V = " ++ f.type.stripNull.text ++ "\x7b") ::
      ((e.columns.map fun c =>
        "        " ++ c.name ++ ": " ++ c.type.extraction.text (f.scratchName owner c) ++ ",") ++
        ["    \x7d", "\x7d"]) := by
  simp only [presenceBlock, nullable, Materialization.lines, guard_materialization,
    initializers_materialization]
  simp only [Materialization.slot, Place.text_slot, materialization, String.append_assoc,
    List.cons_append, List.nil_append]

theorem length_presenceBlock (rule' : PresenceRule) :
    (f.presenceBlock owner rule).length = (f.presenceBlock owner rule').length := by
  cases nullable : f.nullableEmbed? with
  | none => simp [nullable]
  | some e =>
      rw [presenceBlock_eq nullable, presenceBlock_eq nullable]
      rfl

/-- Behind its first line a block is the same under both rules. -/
theorem tail_presenceBlock (rule' : PresenceRule) :
    (f.presenceBlock owner rule).tail = (f.presenceBlock owner rule').tail := by
  cases nullable : f.nullableEmbed? with
  | none => simp [nullable]
  | some e =>
      rw [presenceBlock_eq nullable, presenceBlock_eq nullable]
      rfl

theorem head?_presenceBlock_ne_iff :
    (f.presenceBlock owner .anyKey).head? ≠ (f.presenceBlock owner .allKeys).head? ↔
      ∃ e, f.nullableEmbed? = some e ∧ 2 ≤ e.keys.length := by
  cases nullable : f.nullableEmbed? with
  | none => simp [nullable]
  | some e =>
      rw [presenceBlock_eq nullable, presenceBlock_eq nullable, List.head?_cons, List.head?_cons,
        ne_eq, Option.some.injEq, String.append_left_inj, String.append_right_inj,
        PresenceRule.guardOver_eq_iff, List.length_map, Nat.not_le]
      constructor
      · intro several
        exact ⟨e, rfl, several⟩
      · rintro ⟨e', ⟨⟩, several⟩
        exact several

theorem presenceBlock_of_nullableEmbed {e : Embed} (nullable : f.nullableEmbed? = some e) :
    f.PresenceBlock owner rule e (f.presenceBlock owner rule) := by
  have some_key : e.keys ≠ [] := by
    have absentable := (nullableEmbed?_eq_some_iff.mp nullable).2
    intro none
    rw [Embed.nullable, none] at absentable
    cases absentable
  have count : ∀ g : Column → String, (e.columns.map g).length = e.columns.length :=
    fun g => List.length_map g
  rw [presenceBlock_eq nullable]
  refine ⟨?_, ⟨rule.condition (e.keys.map (f.scratchName owner)), ?_, rule.tested_condition _, ?_,
    ?_⟩, rfl, rfl, ?_, fun c _ => c.type.readBack_extraction _, ?_⟩
  · simp only [List.length_cons, List.length_append, count, List.length_nil]
  · rw [rule.text_condition]
    rfl
  · intro valid
    rw [rule.holds_condition, List.map_map, rule.holds_iff_present]
    rfl
  · intro named
    rw [rule.text_condition]
    apply rule.readCondition?_guard
    · simpa using some_key
    · simpa using named
  · rw [List.drop_succ_cons, List.drop_succ_cons, List.drop_succ_cons, List.drop_zero]
    exact List.take_left' (count _)
  · rw [List.drop_succ_cons, List.drop_succ_cons, List.drop_succ_cons]
    exact List.drop_left' (count _)

end Field

/-- The lines that fill the slots of some fields from scratch variables, and the sites whose
variables they read: a block for each nullable embed, in the order of the fields. Its guard tests
variables that it reads, and it reads one for each column of the struct that it puts into the slot,
by an expression of the column's type. -/
inductive Fills (owner : String) (rule : PresenceRule) :
    List Field → List String → List Site → Prop
  | nil : Fills owner rule [] [] []
  | plain {f : Field} {rest : List Field} {lines : List String} {sites : List Site} :
      f.nullableEmbed? = none → Fills owner rule rest lines sites →
      Fills owner rule (f :: rest) lines sites
  | block {f : Field} {e : Embed} {read : Column → String} {rest : List Field}
      {lines : List String} {sites : List Site} : f.nullableEmbed? = some e →
      e.keys ⊆ e.columns →
      (∀ c ∈ e.columns, c.type.ReadBack (owner ++ "Embed" ++ f.name ++ c.name) (read c) ∧
        Go.HasType (owner ++ "Embed" ++ f.name ++ c.name) c.type.toNullable (read c) c.type) →
      Fills owner rule rest lines sites →
      Fills owner rule (f :: rest)
        (("if " ++ rule.operator.intercalate
            (e.keys.map fun k => owner ++ "Embed" ++ f.name ++ k.name ++ ".Valid") ++ " \x7b") ::
          ("    " ++ owner ++ "." ++ f.name ++ ".Valid = true") ::
          ("    " ++ owner ++ "." ++ f.name ++ ".V = " ++ f.type.stripNull.text ++ "\x7b") ::
          (e.columns.map fun c => "        " ++ c.name ++ ": " ++ read c ++ ",") ++
            "    \x7d" :: "\x7d" :: lines)
        (e.columns.map (Site.mk f) ++ sites)

theorem fills_presenceBlocks (owner : String) (rule : PresenceRule) (fields : List Field) :
    Fills owner rule fields (fields.flatMap (Field.presenceBlock owner rule))
      ((fields.flatMap Field.sites).filter Site.absentable) := by
  induction fields with
  | nil => exact .nil
  | cons f rest ih =>
      rw [List.flatMap_cons, List.flatMap_cons, List.filter_append]
      cases nullable : f.nullableEmbed? with
      | none =>
          rw [Field.presenceBlock_of_plain nullable, Field.filter_sites_of_plain nullable]
          exact .plain nullable ih
      | some e =>
          have reads (c : Column) := c.type.readBack_extraction (f.scratchName owner c)
          have block := Fills.block nullable e.keys_mem
            (fun c _ => ⟨reads c, (reads c).hasType⟩) ih
          rw [Field.presenceBlock_eq nullable, Field.filter_sites_of_nullable nullable]
          simpa [PresenceRule.guardOver, Function.comp_def, Field.scratchName] using block

namespace Binding

variable (owner : String) (r : Record) (asStruct byPointer : Bool) (arrays : ArraySupport)

theorem presenceLines_record (rule : PresenceRule) :
    presenceLines ⟨.record owner r, asStruct, byPointer, arrays⟩ rule =
      r.fields.flatMap (Field.presenceBlock owner rule) := by
  simp only [presenceLines, materializations, nullableEmbeds_record, varName_record,
    Record.nullableEmbeds, List.flatMap_map]
  induction r.fields with
  | nil => rfl
  | cons f rest ih =>
      rw [List.flatMap_cons, ← ih, Field.presenceBlock]
      cases nullable : f.nullableEmbed? <;> simp [nullable]

/-- The presence lines of a record are the blocks of its nullable embeds, in the order of its
fields. The lines of both rules are equally many, and differ in the guards of those embeds that have
two columns or more in their key. -/
theorem presence_blocks :
    let b : Binding := ⟨.record owner r, asStruct, byPointer, arrays⟩
    (∀ rule, b.presenceLines rule = r.fields.flatMap (Field.presenceBlock owner rule)) ∧
    (∀ rule, ∀ f ∈ r.fields,
      (f.nullableEmbed? = none → f.presenceBlock owner rule = []) ∧
      ∀ e, f.nullableEmbed? = some e →
        f.PresenceBlock owner rule e (f.presenceBlock owner rule)) ∧
    (b.presenceLines .anyKey).length = (b.presenceLines .allKeys).length ∧
    ∀ k, (b.presenceLines .anyKey)[k]? ≠ (b.presenceLines .allKeys)[k]? ↔
      ∃ before f after, r.fields = before ++ f :: after ∧
        k = (before.map fun g => (g.presenceBlock owner .anyKey).length).sum ∧
        ∃ e, f.nullableEmbed? = some e ∧ 2 ≤ e.keys.length := by
  intro b
  refine ⟨presenceLines_record owner r asStruct byPointer arrays, ?_, ?_, ?_⟩
  · intro rule f _
    exact ⟨Field.presenceBlock_of_plain, fun e nullable =>
      Field.presenceBlock_of_nullableEmbed nullable⟩
  · rw [presenceLines_record, presenceLines_record, List.length_flatMap, List.length_flatMap]
    have lengths : (fun f : Field => (f.presenceBlock owner .anyKey).length) =
        fun f => (f.presenceBlock owner .allKeys).length := by
      funext f
      exact Field.length_presenceBlock .allKeys
    rw [lengths]
  · intro k
    rw [presenceLines_record, presenceLines_record,
      getElem?_flatMap_ne_iff (fun f => Field.length_presenceBlock .allKeys)
        fun f => Field.tail_presenceBlock .allKeys]
    simp only [Field.head?_presenceBlock_ne_iff]

/-- A table with two columns in its key, after a column that has no block. -/
theorem presence_blocks_composite :
    let id : Column := { name := "ID", type := .scalar .int64 }
    let org : Column := { name := "OrgID", type := .scalar .int32 }
    let e : Embed := ⟨[id, org], [org, id], List.cons_ne_nil _ _, by simp⟩
    let title : Field := { name := "Title", type := .scalar .string }
    let f : Field := { name := "Author", type := .record "Author", embed := some e }
    let b : Binding := .ofRecord "i" ⟨"ListPostsRow", [title, f]⟩ ⟨false, "pq.Array"⟩
    f.nullableEmbed? = some e ∧ (∀ k ∈ e.keys, Go.isName (f.scratchName "i" k) = true) ∧
    (∃ condition : Go.Condition, Go.readCondition? condition.text = some condition ∧
      condition.tested = ["iEmbedAuthorOrgID", "iEmbedAuthorID"] ∧
      condition.holds (· = "iEmbedAuthorID") = false) ∧
    (b.presenceLines .anyKey)[0]? ≠ (b.presenceLines .allKeys)[0]? := by
  intro id org e title f b
  obtain ⟨-, blocks, -, differ⟩ := presence_blocks "i" ⟨"ListPostsRow", [title, f]⟩ true false
    ⟨false, "pq.Array"⟩
  have nullable : f.nullableEmbed? = some e := rfl
  have named : ∀ k ∈ e.keys, Go.isName (f.scratchName "i" k) = true := by decide
  have block := (blocks .allKeys f (by simp)).2 e nullable
  obtain ⟨condition, -, tested, holds, read⟩ := block.guard
  refine ⟨nullable, named, ⟨condition, read named, tested, ?_⟩, ?_⟩
  · rw [← Bool.not_eq_true, holds]
    intro all
    exact absurd (all org List.mem_cons_self) (by decide)
  · exact (differ 0).mpr ⟨[title], f, [], rfl, rfl, e, nullable, Nat.le_refl 2⟩

end Binding

end QueryBinding
