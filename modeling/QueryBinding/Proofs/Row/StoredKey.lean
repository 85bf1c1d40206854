import QueryBinding.Binding.Presence
import QueryBinding.Proofs.Query.Checks

/-! # Keys by position

The key of a nullable embed can be kept as positions in the list of the embed's columns. Nothing in
that form says that the positions lie inside the list, so that reading the key may fail. What keeps
it from failing is how embeds are made. Main statements: `absentable_eq`, that positions are found
where key columns are, and `exists_keys_stored`, that each of them is read. -/

namespace QueryBinding

inductive Lapse where
  /-- A question that a binding has no answer to. -/
  | misuse (misuse : Misuse)
  /-- A position outside a list of so many columns. -/
  | outside (position count : Nat)
deriving DecidableEq, Repr

/-- An embed with the positions of its key among its columns. -/
structure StoredEmbed where
  columns : List Column
  positions : List Nat
deriving DecidableEq

namespace StoredEmbed

def columnAt (e : StoredEmbed) (position : Nat) : Except Lapse Column :=
  match e.columns[position]? with
  | some column => .ok column
  | none => .error (.outside position e.columns.length)

def keys (e : StoredEmbed) : Except Lapse (List Column) := e.positions.mapM e.columnAt

def keyPosition (embed : String) (columns : List Column) (key : String) : Except Failure Nat :=
  match columns.findIdx? (·.name == key) with
  | some position => .ok position
  | none => .error (StatementFault.unknownKey key embed).failure

/-- The embed of a table that is always present. -/
def present (embed : String) (fields : List Field) : Except Failure StoredEmbed := do
  let columns ← embedColumns embed fields
  .ok ⟨columns.val, []⟩

/-- The embed of a table that may be absent, with its key by the names of fields. -/
def absentable (embed : String) (fields : List Field) (keys : List String) :
    Except Failure StoredEmbed := do
  let columns ← embedColumns embed fields
  if keys.isEmpty then .error ⟨.missingKey embed, []⟩
  else
    let positions ← keys.mapM (keyPosition embed columns.val)
    .ok ⟨columns.val, positions⟩

end StoredEmbed

/-- An embed as it is kept: each column of the key by the position of the first column so named. -/
def Embed.stored (e : Embed) : StoredEmbed where
  columns := e.columns
  positions := e.keys.map fun k => e.columns.findIdx (·.name == k.name)

namespace StoredEmbed

theorem keyPosition_eq (embed : String) (columns : List Column) (key : String) :
    keyPosition embed columns key = (keyColumn embed columns key).map
      fun column => columns.findIdx (·.name == column.val.name) := by
  unfold keyColumn
  split
  · next column found =>
      have holds : (column.name == key) = true := by
        simpa only using List.find?_some found
      have named : column.name = key := eq_of_beq holds
      have inside : columns.findIdx (·.name == key) < columns.length :=
        List.findIdx_lt_length_of_exists ⟨column, List.mem_of_find?_eq_some found, holds⟩
      have position := List.findIdx?_eq_some_iff_findIdx_eq.mpr ⟨inside, rfl⟩
      rw [keyPosition, position, Except.map, named]
  · next absent =>
      have nowhere : columns.findIdx? (·.name == key) = none := by
        rw [List.findIdx?_eq_none_iff]
        intro column member
        exact Bool.eq_false_iff.mpr (List.find?_eq_none.mp absent column member)
      simp [keyPosition, nowhere]

theorem present_eq (embed : String) (fields : List Field) :
    present embed fields = (Embed.present embed fields).map Embed.stored := by
  rw [present, Embed.present]
  cases embedColumns embed fields <;> rfl

/-- The positions that are kept for a key are those of its columns, and a key that has no columns is
refused in the same words. -/
theorem absentable_eq (embed : String) (fields : List Field) (keys : List String) :
    absentable embed fields keys = (Embed.absentable embed fields keys).map Embed.stored := by
  unfold absentable Embed.absentable
  cases embedColumns embed fields with
  | error failure => rfl
  | ok columns =>
      simp only [ok_bind]
      split
      · rfl
      · have positions : keyPosition embed columns.val = fun key =>
            (keyColumn embed columns.val key).map
              fun column => columns.val.findIdx (·.name == column.val.name) := by
          funext key
          exact keyPosition_eq embed columns.val key
        rw [positions, mapM_map_eq]
        cases keys.mapM (keyColumn embed columns.val) with
        | error failure => rfl
        | ok found =>
            simp [Embed.stored]

/-- Each position that is kept lies inside the list, at a column of the key's name. -/
theorem exists_columnAt_stored {e : Embed} {k : Column} (member : k ∈ e.keys) :
    ∃ c, e.stored.columnAt (e.columns.findIdx (·.name == k.name)) = .ok c ∧ c.name = k.name := by
  have inside : e.columns.findIdx (·.name == k.name) < e.columns.length :=
    List.findIdx_lt_length_of_exists ⟨k, e.keys_mem k member, beq_self_eq_true k.name⟩
  refine ⟨e.columns[e.columns.findIdx (·.name == k.name)], ?_, ?_⟩
  · rw [columnAt, Embed.stored, List.getElem?_eq_getElem inside]
  · exact eq_of_beq (List.findIdx_getElem (w := inside))

theorem exists_keys_stored (e : Embed) :
    ∃ columns, e.stored.keys = .ok columns ∧ columns.map (·.name) = e.keys.map (·.name) := by
  rw [keys, Embed.stored, List.mapM_map]
  exact exists_mapM_eq_ok fun k member => exists_columnAt_stored member

end StoredEmbed

end QueryBinding
