/-! Floating-point numbers as exact multiples of powers of two. -/
namespace UtilityCss.Decimal

structure Binary where
  negative : Bool
  mantissa : Nat
  exponent : Int
  deriving DecidableEq, Repr, Inhabited

inductive View where
  | finite (b : Binary)
  | infinite (negative : Bool)
  | nan
  deriving DecidableEq, Repr, Inhabited

/-- The number of bits that a mantissa has behind its leading one. -/
def fractionBits : Nat := 52

def leastExponent : Int := -1074

/-- What the bits of a number say: a sign, eleven bits of exponent, fifty-two of mantissa. -/
def view (x : Float) : View :=
  let bits := x.toBits.toNat
  let negative := bits / Nat.pow 2 63 = 1
  let exponent : Nat := bits / Nat.pow 2 fractionBits % Nat.pow 2 11
  let fraction := bits % Nat.pow 2 fractionBits
  if exponent = Nat.pow 2 11 - 1 then
    if fraction = 0 then .infinite negative else .nan
  else if exponent = 0 then .finite ⟨negative, fraction, leastExponent⟩
  else .finite ⟨negative, Nat.pow 2 fractionBits + fraction, leastExponent + exponent - 1⟩

end UtilityCss.Decimal
