import QueryBinding.Json.Basic
import QueryBinding.Json.Text

/-! # Numbers of JSON

A number is scanned into its digits, and its value is then taken from them: an integer if it fits a
machine word, and a double otherwise. The double is built from the digits that fit a word by one
multiplication or division with a power of ten, so that it may differ from the nearest one. -/

namespace QueryBinding

namespace JsonNumber

structure Digits where
  negative : Bool
  whole : List Char
  fraction : Option (List Char)
  /-- The sign and digits of the exponent; true for a negative one. -/
  exponent : Option (Bool × List Char)

/-- One digit or more. -/
def scanDigits (cs : List Char) : Except Fault (List Char × List Char) :=
  match cs.takeWhile Char.isDigit, cs.dropWhile Char.isDigit with
  | [], [] => .error .ended
  | [], _ :: _ => .error .malformed
  | digits, rest => .ok (digits, rest)

/-- The digits before the point: a zero stands alone. -/
def scanWhole (cs : List Char) : Except Fault (List Char × List Char) := do
  let (digits, rest) ← scanDigits cs
  match digits with
  | '0' :: _ :: _ => .error .malformed
  | _ => .ok (digits, rest)

def scanFraction : List Char → Except Fault (Option (List Char) × List Char)
  | '.' :: rest => do
    let (digits, rest) ← scanDigits rest
    .ok (some digits, rest)
  | rest => .ok (none, rest)

def scanSign : List Char → Bool × List Char
  | '+' :: rest => (false, rest)
  | '-' :: rest => (true, rest)
  | rest => (false, rest)

def scanExponent (cs : List Char) : Except Fault (Option (Bool × List Char) × List Char) :=
  match cs with
  | c :: rest =>
    if c = 'e' ∨ c = 'E' then do
      let (negative, rest) := scanSign rest
      let (digits, rest) ← scanDigits rest
      .ok (some (negative, digits), rest)
    else .ok (none, cs)
  | [] => .ok (none, [])

def scan (cs : List Char) : Except Fault (Digits × List Char) := do
  let (negative, rest) := match cs with
    | '-' :: rest => (true, rest)
    | rest => (false, rest)
  let (whole, rest) ← scanWhole rest
  let (fraction, rest) ← scanFraction rest
  let (exponent, rest) ← scanExponent rest
  .ok (⟨negative, whole, fraction, exponent⟩, rest)

/-- Takes digits into a number as long as it stays below a bound; answers the digits left over. -/
def accumulate (bound n : Nat) : List Char → Nat × List Char
  | [] => (n, [])
  | c :: rest =>
    let next := 10 * n + (c.toNat - '0'.toNat)
    if next < bound then accumulate bound next rest else (n, c :: rest)

/-- One more than the greatest natural number of a machine word. -/
def wordBound : Nat := 0x10000000000000000

/-- The absolute value of the least integer of a machine word. -/
def negativeBound : Nat := 0x8000000000000000

/-- One more than the greatest exponent that is taken as it stands. -/
def exponentBound : Nat := 0x80000000

/-- The power of ten as the nearest double. -/
def powerOfTen (n : Nat) : Float := Float.ofScientific 1 false n

/-- The greatest power of ten that is taken in one step. -/
def greatestPower : Nat := 308

/-- A double times a power of ten, unless it is too large for a double. Smaller powers than the
least one are reached in several steps. -/
def scale (x : Float) (exponent : Int) : Option Float :=
  if exponent ≥ 0 then
    if exponent ≤ greatestPower then
      let y := x * powerOfTen exponent.toNat
      if y.isInf then none else some y
    else if x == 0 then some x else none
  else if -exponent ≤ greatestPower then some (x / powerOfTen (-exponent).toNat)
  else if x == 0 then some x
  else scale (x / powerOfTen greatestPower) (exponent + greatestPower)
termination_by (-exponent).toNat
decreasing_by
  simp only [greatestPower] at *
  omega

def signed (negative : Bool) (x : Float) : Float := if negative then -x else x

/-- The value of digits that are no integer of a machine word, unless it is too large for a double.
Whole digits beyond a word raise the exponent, and decimals beyond it are dropped. -/
def Digits.double? (d : Digits) : Option Float :=
  let (whole, beyond) := accumulate wordBound 0 d.whole
  let fraction := d.fraction.getD []
  let (significand, dropped) := accumulate wordBound whole fraction
  let base : Int := beyond.length - (fraction.length - dropped.length : Nat)
  let magnitude :=
    match d.exponent with
    | none => scale significand.toUInt64.toFloat base
    | some (negative, digits) =>
      match accumulate exponentBound 0 digits with
      | (exponent, []) =>
        scale significand.toUInt64.toFloat (if negative then base - exponent else base + exponent)
      | (_, _ :: _) => if significand ≠ 0 ∧ ¬ negative then none else some 0
  magnitude.map (signed d.negative)

/-- The integer a machine word holds, for digits without point and exponent. -/
def Digits.integer? (d : Digits) : Option Number :=
  match d.fraction, d.exponent with
  | none, none =>
    match accumulate wordBound 0 d.whole with
    | (n, []) =>
      if ¬ d.negative then some (.natural (UInt64.ofNat n))
      else if 0 < n ∧ n ≤ negativeBound then some (.negative (Int64.ofInt (-(n : Int))))
      else none
    | (_, _ :: _) => none
  | _, _ => none

/-- The value of a number, unless it is too large for a double. -/
def Digits.value? (d : Digits) : Option Number :=
  match d.integer? with
  | some n => some n
  | none => d.double?.map .real

end JsonNumber

end QueryBinding
