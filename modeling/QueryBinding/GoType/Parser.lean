import QueryBinding.GoType.Basic
import QueryBinding.Text.Prefix

/-! # Reading a Go type

Every text is a type: what is neither a slice, a scalar nor a `sql.Null` wrapper is kept as a named
type. Slices and `sql.Null[T]` are read inward from their outermost layer. -/

namespace QueryBinding

def Scalar.ofText? (text : String) : Option Scalar :=
  Scalar.all.find? (·.text == text)

def Wrapper.ofText? (text : String) : Option Wrapper :=
  Wrapper.all.find? fun w => "sql.Null" ++ w.payload == text

theorem Scalar.ofText?_text (s : Scalar) : Scalar.ofText? s.text = some s := by
  cases s <;> decide

theorem Scalar.text_of_ofText? {text : String} {s : Scalar} (h : Scalar.ofText? text = some s) :
    s.text = text := by
  unfold Scalar.ofText? at h
  simpa only [beq_iff_eq] using List.find?_some h

theorem Wrapper.ofText?_text (w : Wrapper) :
    Wrapper.ofText? ("sql.Null" ++ w.payload) = some w := by
  cases w <;> decide

theorem Wrapper.text_of_ofText? {text : String} {w : Wrapper} (h : Wrapper.ofText? text = some w) :
    "sql.Null" ++ w.payload = text := by
  unfold Wrapper.ofText? at h
  simpa only [beq_iff_eq] using List.find?_some h

namespace GoType

/-- The text between an opening `sql.Null[` and the bracket that ends the text. -/
def nullArgument? (cs : List Char) : Option (List Char) :=
  match Text.dropPrefix? "sql.Null[".toList cs with
  | some rest => if rest.getLast? = some ']' then some rest.dropLast else none
  | none => none

theorem nullArgument?_eq_some_iff {cs inner : List Char} :
    nullArgument? cs = some inner ↔ cs = "sql.Null[".toList ++ inner ++ [']'] := by
  unfold nullArgument?
  constructor
  · intro h
    split at h
    · next rest hp =>
      rw [Text.dropPrefix?_eq_some_iff] at hp
      split at h
      · next hl =>
        obtain ⟨ys, hy⟩ := List.getLast?_eq_some_iff.1 hl
        subst hy
        simp only [List.dropLast_concat, Option.some.injEq] at h
        rw [hp, h, List.append_assoc]
      · cases h
    · cases h
  · intro h
    rw [List.append_assoc] at h
    rw [Text.dropPrefix?_eq_some_iff.2 h]
    simp

theorem length_lt_of_nullArgument? {cs inner : List Char} (h : nullArgument? cs = some inner) :
    inner.length < cs.length := by
  rw [nullArgument?_eq_some_iff.1 h]
  simp only [List.length_append, List.length_cons, List.length_nil]
  omega

/-- The item type of a slice. -/
def listItem? (cs : List Char) : Option (List Char) := Text.dropPrefix? ['[', ']'] cs

theorem listItem?_eq_some_iff {cs item : List Char} :
    listItem? cs = some item ↔ cs = '[' :: ']' :: item := Text.dropPrefix?_eq_some_iff

theorem length_lt_of_listItem? {cs item : List Char} (h : listItem? cs = some item) :
    item.length < cs.length := by
  rw [listItem?_eq_some_iff.1 h, List.length_cons, List.length_cons]
  omega

/-- A type without layers: a scalar, a fixed wrapper, or any other name. -/
def ofName (name : String) : GoType :=
  match Scalar.ofText? name, Wrapper.ofText? name with
  | some s, _ => scalar s
  | none, some w => wrapper w
  | none, none => named name

theorem text_ofName (name : String) : (ofName name).text = name := by
  unfold ofName
  split
  · next h => exact Scalar.text_of_ofText? h
  · next h => exact Wrapper.text_of_ofText? h
  · rfl

def ofChars (cs : List Char) : GoType :=
  if cs = "[]byte".toList then bytes
  else
    match _hl : listItem? cs with
    | some item => list (ofChars item)
    | none =>
      match _hn : nullArgument? cs with
      | some inner => null (ofChars inner)
      | none => ofName (String.ofList cs)
termination_by cs.length
decreasing_by
  · exact length_lt_of_listItem? _hl
  · exact length_lt_of_nullArgument? _hn

theorem text_ofChars (cs : List Char) : (ofChars cs).text = String.ofList cs := by
  fun_induction ofChars cs with
  | case1 => rfl
  | case2 cs _ item h ih =>
    rw [listItem?_eq_some_iff] at h
    subst h
    rw [text, ih, ← String.toList_inj]
    simp only [String.toList_append, String.toList_ofList]
    rfl
  | case3 cs _ _ inner h ih =>
    rw [nullArgument?_eq_some_iff] at h
    subst h
    rw [text, ih, ← String.toList_inj]
    simp only [String.toList_append, String.toList_ofList]
    rfl
  | case4 cs => exact text_ofName (String.ofList cs)

def parse (text : String) : GoType := ofChars text.toList

end GoType

end QueryBinding
