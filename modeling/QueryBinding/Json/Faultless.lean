import QueryBinding.Json.Reading

/-! # Readings without faults

The reading of a text that writes a value, and how many brackets such a text opens at once. Reading
what was written comes out at this reading as long as the brackets do not go too deep. -/

namespace QueryBinding.Json

mutual

/-- The reading that has a value and no fault. -/
def reading : Json → Reading
  | null => .null
  | bool value => .bool value
  | number value => .number value
  | string text => .string text
  | array items => .array (itemReadings items) none
  | object members => .object (memberReadings members) none

def itemReadings : List Json → List Reading
  | [] => []
  | item :: items => item.reading :: itemReadings items

def memberReadings : List (String × Json) → List (Key × Reading)
  | [] => []
  | (key, value) :: members => (.name key, value.reading) :: memberReadings members

end

mutual

/-- The most brackets around any part of a value, its own included. -/
def depth : Json → Nat
  | array items => itemsDepth items + 1
  | object members => membersDepth members + 1
  | _ => 0

def itemsDepth : List Json → Nat
  | [] => 0
  | item :: items => max item.depth (itemsDepth items)

def membersDepth : List (String × Json) → Nat
  | [] => 0
  | (_, value) :: members => max value.depth (membersDepth members)

end

end QueryBinding.Json
