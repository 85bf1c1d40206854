import QueryBinding.Record.Field

/-! # Records

A record is the layout of a generated struct. A join may bring two fields of one name; rows still
have both, while the struct keeps the first. -/

namespace QueryBinding

/-- Leaves out each field that has an earlier one of its name. -/
def firstOfEachName : List Field → List Field
  | [] => []
  | f :: rest => f :: (firstOfEachName rest).filter fun g => g.name ≠ f.name

/-- A named struct and its fields in order, names possibly repeated. -/
structure Record where
  name : String
  fields : List Field
deriving DecidableEq

namespace Record

def uniqueFields (r : Record) : List Field := firstOfEachName r.fields

def hasSpread (r : Record) : Bool := r.fields.any (·.spread)

def nullableEmbeds (r : Record) : List (Field × Embed) :=
  r.fields.filterMap fun f => f.nullableEmbed?.map fun e => (f, e)

end Record

end QueryBinding
