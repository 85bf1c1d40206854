import QueryBinding.Decimal.Shortest

/-! # How a double is written

The shortest decimal of a double, written with a point and at least one decimal where its point
stands near the digits, and with an exponent elsewhere. -/

namespace QueryBinding.Decimal

/-- The decisions of a decimal notation. -/
structure Format where
  /-- The least position of the point, counted from the first digit, that is written without an
  exponent. -/
  leastPoint : Int
  /-- The greatest such position. -/
  greatestPoint : Int

/-- Positional from 0.00001 up to below 10 ^ 16. -/
def messageFormat : Format := ⟨-4, 16⟩

def zeros (n : Nat) : String := String.ofList (List.replicate n '0')

def Format.write (f : Format) (d : Decimal) : String :=
  let digits := (toString d.digits).toList
  let point : Int := digits.length + d.exponent
  if d.digits = 0 then "0.0"
  else if f.leastPoint ≤ point ∧ point ≤ f.greatestPoint then
    if 0 ≤ d.exponent then String.ofList digits ++ zeros d.exponent.toNat ++ ".0"
    else if 0 < point then
      String.ofList (digits.take point.toNat) ++ "." ++ String.ofList (digits.drop point.toNat)
    else "0." ++ zeros (-point).toNat ++ String.ofList digits
  else
    let rest := digits.drop 1
    let mantissa := digits.take 1 ++ (if rest.isEmpty then [] else '.' :: rest)
    let power := point - 1
    String.ofList mantissa ++ (if power < 0 then "e-" else "e+") ++ toString power.natAbs

def signBit : Nat := 0x8000000000000000

def doubleText (x : Float) : String :=
  let bits := x.toBits.toNat
  (if bits < signBit then "" else "-") ++ messageFormat.write (shortest (bits % signBit))

end QueryBinding.Decimal
