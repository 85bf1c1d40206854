/-! # The shortest decimal of a double

A finite positive double owns the interval of reals that round to it. Of the decimals in that
interval the shortest are those on the coarsest grid of powers of ten that meets it; of two such
decimals the nearer one is taken, and at a tie the even one. All arithmetic is exact. -/

namespace QueryBinding

structure Decimal where
  digits : Nat
  exponent : Int
deriving DecidableEq, Repr

namespace Decimal

/-- A value and the ends of the interval that rounds to it, as numerators over one denominator. The
ends belong to the interval if `closed`. -/
structure RoundingInterval where
  low : Nat
  value : Nat
  high : Nat
  denominator : Nat
  closed : Bool

/-- The interval of the double `significand * 2 ^ exponent`. Below a power of two, the least normal
one apart, doubles lie half as far apart as above it; `powerOfTwo` says so. -/
def RoundingInterval.of (significand : Nat) (exponent : Int) (powerOfTwo : Bool) :
    RoundingInterval :=
  let scale := Nat.pow 2 (exponent - 2).toNat
  { low := (4 * significand - (if powerOfTwo then 1 else 2)) * scale
    value := 4 * significand * scale
    high := (4 * significand + 2) * scale
    denominator := Nat.pow 2 (2 - exponent).toNat
    closed := significand % 2 == 0 }

/-- Whether a numerator over the interval's denominator lies in the interval, all scaled by `s`. -/
def RoundingInterval.holds (i : RoundingInterval) (s numerator : Nat) : Bool :=
  if i.closed then i.low * s ≤ numerator && numerator ≤ i.high * s
  else i.low * s < numerator && numerator < i.high * s

def RoundingInterval.point? (i : RoundingInterval) (k : Int) : Option Nat :=
  let step := Nat.pow 10 k.toNat * i.denominator
  let s := Nat.pow 10 (-k).toNat
  let below := i.value * s / step
  let above := below + 1
  match i.holds s (below * step), i.holds s (above * step) with
  | false, false => none
  | true, false => some below
  | false, true => some above
  | true, true =>
    let down := i.value * s - below * step
    let up := above * step - i.value * s
    if down < up then some below
    else if up < down then some above
    else if below % 2 == 0 then some below else some above

def RoundingInterval.coarsest (i : RoundingInterval) : Nat → Int → Decimal
  | 0, k => ⟨0, k⟩
  | fuel + 1, k =>
    match i.point? k with
    | some digits => ⟨digits, k⟩
    | none => i.coarsest fuel (k - 1)

def coarsestGrid : Int := 308

/-- Grids from `10 ^ 308` down to `10 ^ (-324)`; the last one meets every interval. -/
def gridCount : Nat := 633

def hiddenBit : Nat := 0x10000000000000

/-- The significand and exponent of a positive finite double, and whether it is a power of two whose
lower neighbour is nearer than its upper one. -/
def decompose (bits : Nat) : Nat × Int × Bool :=
  let fraction : Nat := bits % hiddenBit
  let biased : Nat := bits / hiddenBit % 0x800
  if biased = 0 then (fraction, -1074, false)
  else (fraction + hiddenBit, (biased : Int) - 1075, fraction == 0 && biased != 1)

/-- The shortest decimal that rounds to the double with these bits; zero for zero. -/
def shortest (bits : Nat) : Decimal :=
  let (significand, exponent, powerOfTwo) := decompose bits
  if significand = 0 then ⟨0, 0⟩
  else (RoundingInterval.of significand exponent powerOfTwo).coarsest gridCount coarsestGrid

end Decimal

end QueryBinding
