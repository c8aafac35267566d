import UtilityCss.Decimal.Shortest

/-! Numbers as text in positional notation. -/
namespace UtilityCss.Decimal

def digitText (n : Nat) : List Char := Nat.toDigits 10 n

def padded (width n : Nat) : List Char :=
  let digits := digitText n
  List.replicate (width - digits.length) '0' ++ digits

def withPlaces (n places : Nat) : List Char :=
  if places = 0 then digitText n
  else digitText (n / Nat.pow 10 places) ++ '.' :: padded places (n % Nat.pow 10 places)

def dropZeros (text : List Char) : List Char :=
  if text.contains '.' then
    ((text.reverse.dropWhile (· = '0')).dropWhile (· = '.')).reverse
  else text

def positional (digits : Nat) (power : Int) : List Char :=
  if 0 ≤ power then digitText (digits * Nat.pow 10 power.toNat)
  else dropZeros (withPlaces digits (-power).toNat)

def signed (negative : Bool) (text : List Char) : String :=
  String.ofList (if negative then '-' :: text else text)

/-- The shortest text that reads back as the number, without an exponent. -/
def plain (x : Float) : String :=
  match view x with
  | .nan => "NaN"
  | .infinite negative => signed negative "inf".toList
  | .finite b =>
    if b.mantissa = 0 then signed b.negative ['0']
    else
      let (digits, power) := shortest b
      signed b.negative (positional digits power)

/-- The nearest whole number to a fraction; of two that are equally near, the even one. -/
def roundEven (numerator denominator : Nat) : Nat :=
  let whole := numerator / denominator
  let rest := 2 * (numerator % denominator)
  if rest < denominator then whole
  else if denominator < rest then whole + 1
  else whole + whole % 2

/-- The number rounded to a fixed number of places, from its exact value. -/
def fixed (places : Nat) (x : Float) : String :=
  match view x with
  | .nan => "NaN"
  | .infinite negative => signed negative "inf".toList
  | .finite b =>
    let numerator := b.mantissa * Nat.pow 2 b.exponent.toNat * Nat.pow 10 places
    signed b.negative (withPlaces (roundEven numerator (Nat.pow 2 (-b.exponent).toNat)) places)

end UtilityCss.Decimal
