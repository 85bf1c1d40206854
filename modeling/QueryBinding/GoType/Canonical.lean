import QueryBinding.GoType.Basic

/-! # Canonical types

A type is canonical if its text alone tells what it is. The only others are structs, whose text is
that of a named type, names that spell a type of another kind, and the list of a type named
`byte`, which prints like bytes. -/

namespace QueryBinding

/-- Names that spell no other kind of type: not a slice, not a scalar, not a wrapper. -/
def GoType.IsPlainName (name : String) : Prop :=
  ¬ ['[', ']'] <+: name.toList ∧
  (∀ s : Scalar, s.text ≠ name) ∧
  (∀ w : Wrapper, "sql.Null" ++ w.payload ≠ name) ∧
  ∀ inner : String, "sql.Null[" ++ inner ++ "]" ≠ name

/-- The types that their text determines. -/
def GoType.Canonical : GoType → Prop
  | .scalar _ => True
  | .bytes => True
  | .list item => item.Canonical ∧ item ≠ .named "byte"
  | .wrapper _ => True
  | .null inner => inner.Canonical
  | .record _ => False
  | .named name => GoType.IsPlainName name

end QueryBinding
