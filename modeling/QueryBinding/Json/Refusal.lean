import QueryBinding.Json.Reading
import QueryBinding.Decimal.Format
import QueryBinding.Text.Quoted

/-! # Refused readings

Why a reading is not a value of the wanted kind: its text has a fault, or it is JSON that does not
fit. Each way not to fit has its wording here. -/

namespace QueryBinding

/-- Why a reading is refused. -/
inductive Refusal where
  | fault (fault : Fault)
  | wrongType (found wanted : String)
  | wrongValue (found wanted : String)
  | wrongLength (count : Nat) (wanted : String)
  | unknownVariant (given : String) (known : List String)
  | duplicateMember (name : String)
  | missingMember (name : String)
deriving DecidableEq, Repr

/-- A name between back quotes. -/
def tagged (name : String) : String := "\x60" ++ name ++ "\x60"

def Fault.message : Fault → String
  | ended => "the text ends inside a value"
  | malformed => "the text is not JSON"

def Refusal.message : Refusal → String
  | fault f => f.message
  | wrongType found wanted => "invalid type: " ++ found ++ ", expected " ++ wanted
  | wrongValue found wanted => "invalid value: " ++ found ++ ", expected " ++ wanted
  | wrongLength count wanted => "invalid length " ++ toString count ++ ", expected " ++ wanted
  | unknownVariant given known =>
    "unknown variant " ++ tagged given ++ ", expected one of " ++ ", ".intercalate (known.map tagged)
  | duplicateMember name => "duplicate field " ++ tagged name
  | missingMember name => "missing field " ++ tagged name

/-- A number as messages name it. -/
def Number.found : Number → String
  | natural n => "integer " ++ tagged (toString n.toNat)
  | negative i => "integer " ++ tagged (toString i.toInt)
  | real x => "floating point " ++ tagged (Decimal.doubleText x)

/-- The refusal of a reading of another kind than the wanted one. -/
def Reading.refuse (wanted : String) : Reading → Refusal
  | null => .wrongType "null" wanted
  | bool value => .wrongType ("boolean " ++ tagged (if value then "true" else "false")) wanted
  | number n => .wrongType n.found wanted
  | string text => .wrongType ("string " ++ Text.quoted text) wanted
  | array _ _ => .wrongType "sequence" wanted
  | object _ _ => .wrongType "map" wanted
  | bad _ f _ => .fault f

end QueryBinding
