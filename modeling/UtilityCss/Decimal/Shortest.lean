import UtilityCss.Decimal.Binary

/-!
The fewest decimal digits that read back as a given number and, of those, the nearest to it.
-/
namespace UtilityCss.Decimal

/-- A fraction with the ends of the interval of those that round to it, over one denominator. The
ends belong to the interval if it is `closed`. -/
structure Span where
  low : Nat
  value : Nat
  high : Nat
  denominator : Nat
  closed : Bool
  deriving DecidableEq, Repr, Inhabited

/-- What rounds to `mantissa · 2 ^ exponent`. Below a power of two the neighbour is nearer by half. -/
def Binary.span (b : Binary) : Span :=
  let even := b.mantissa % 2 = 0
  let below := if b.mantissa = Nat.pow 2 fractionBits && b.exponent ≠ leastExponent then 1 else 2
  let up := Nat.pow 2 (b.exponent - 2).toNat
  let down := Nat.pow 2 (2 - b.exponent).toNat
  ⟨(4 * b.mantissa - below) * up, 4 * b.mantissa * up, (4 * b.mantissa + 2) * up, down, even⟩

namespace Span

def digitCount (n : Nat) : Nat := (Nat.toDigits 10 n).length

/-- The power of ten of the leading digit of a positive fraction. -/
def leadingPower (s : Span) : Int :=
  if s.denominator ≤ s.value then digitCount (s.value / s.denominator) - 1
  else -(digitCount ((s.denominator - 1) / s.value) : Int)

/-- Factors that bring multiples of `10 ^ power` and the numerators to one scale. -/
def scales (s : Span) (power : Int) : Nat × Nat :=
  (Nat.pow 10 power.toNat * s.denominator, Nat.pow 10 (-power).toNat)

/-- Whether `digits · 10 ^ power` rounds to the number. -/
def admits (s : Span) (power : Int) (digits : Nat) : Bool :=
  let (scale, unit) := s.scales power
  let x := digits * scale
  if s.closed then s.low * unit ≤ x && x ≤ s.high * unit
  else s.low * unit < x && x < s.high * unit

/-- Of the two multiples of `10 ^ power` beside the number the nearer one that rounds to it; the
larger one if they are equally near. -/
def onGrid (s : Span) (power : Int) : Option Nat :=
  let (scale, unit) := s.scales power
  let digits := s.value * unit / scale
  match s.admits power digits, s.admits power (digits + 1) with
  | true, true =>
    if s.value * unit - digits * scale < (digits + 1) * scale - s.value * unit then some digits
    else some (digits + 1)
  | true, false => some digits
  | false, true => some (digits + 1)
  | false, false => none

end Span

def enoughDigits : Nat := 17

/-- The shortest digits, with the power of ten that the last of them stands for. -/
def shortest (b : Binary) : Nat × Int :=
  let s := b.span
  let top := s.leadingPower
  ((List.range enoughDigits).findSome? fun (n : Nat) =>
    let power := top - n
    (s.onGrid power).map fun digits => (digits, power)).getD (0, 0)

end UtilityCss.Decimal
