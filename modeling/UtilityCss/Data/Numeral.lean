/-!
Numbers in the notation of JSON. The digits make a whole number of 64 bits as far as they fit; the
rest only counts. That number is then scaled by powers of ten, each step being rounded.
-/
namespace UtilityCss

structure Numeral where
  negative : Bool := false
  whole : List Char := []
  fraction : List Char := []
  exponentNegative : Bool := false
  exponent : List Char := []
  deriving DecidableEq, Repr, Inhabited

namespace Numeral

def significandLimit : Nat := Nat.pow 2 64 - 1

def digit (c : Char) : Nat := c.toNat - '0'.toNat

/-- Takes digits into a significand up to the first that does not fit; also the number of digits
taken and of those left. -/
def takeDigits (significand : Nat) : List Char → Nat × Nat × Nat
  | [] => (significand, 0, 0)
  | c :: rest =>
    let next := 10 * significand + digit c
    if next > significandLimit then (significand, 0, rest.length + 1)
    else
      let (result, taken, left) := takeDigits next rest
      (result, taken + 1, left)

/-- The significand, and the power of ten that belongs to it before any written exponent. -/
def significand (n : Numeral) : Nat × Int :=
  let (whole, _, left) := takeDigits 0 n.whole
  let (all, taken, _) := takeDigits whole n.fraction
  (all, (left : Int) - taken)

def exponentLimit : Int := Nat.pow 2 31 - 1

def exponentValue (n : Numeral) : Nat := n.exponent.foldl (fun e c => 10 * e + digit c) 0

/-- The largest power of ten that a number can be scaled by in one step. -/
def stepLimit : Nat := 308

def powerOfTen (n : Nat) : Float := Float.ofScientific 1 false n

/-- Divides by a power of ten, in steps that are each within the limit. -/
def scaleDown (x : Float) (n : Nat) : Float :=
  if n ≤ stepLimit then x / powerOfTen n
  else if x == 0 then x
  else scaleDown (x / powerOfTen stepLimit) (n - stepLimit)
termination_by n
decreasing_by simp only [stepLimit] at *; omega

/-- The magnitude `significand · 10 ^ exponent`, if it is in range. -/
def scale (significand : Nat) (exponent : Int) : Option Float :=
  let x := significand.toUInt64.toFloat
  if exponent < 0 then some (scaleDown x (-exponent).toNat)
  else if exponent.toNat ≤ stepLimit then
    let y := x * powerOfTen exponent.toNat
    if y.isInf then none else some y
  else if significand = 0 then some x
  else none

def withSign (negative : Bool) (x : Float) : Float := if negative then -x else x

def value? (n : Numeral) : Option Float :=
  let (significand, power) := n.significand
  let written : Int := n.exponentValue
  if written > exponentLimit then
    if significand ≠ 0 && !n.exponentNegative then none else some (withSign n.negative 0)
  else
    let exponent := if n.exponentNegative then power - written else power + written
    (scale significand exponent).map (withSign n.negative)

end Numeral

end UtilityCss
