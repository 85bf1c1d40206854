/-! # JSON values

A value of JSON. Numbers are told apart by what a request can hold: naturals and negative integers
of a machine word, and all others as doubles. The members of an object keep their order. -/

namespace QueryBinding

/-- A number of JSON. -/
inductive Number where
  | natural (n : UInt64)
  | negative (i : Int64)
  | real (x : Float)

inductive Json where
  | null
  | bool (value : Bool)
  | number (value : Number)
  | string (text : String)
  | array (items : List Json)
  | object (members : List (String × Json))

end QueryBinding
