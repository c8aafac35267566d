import UtilityCss.Data.Basic

/-! Truth values, numbers and dates of TOML, each from the text that stands for it. -/
namespace UtilityCss.Data.Toml

def digitsValue (base : Nat) (digits : List Char) : Nat :=
  digits.foldl (fun n c =>
    base * n + if c.isDigit then c.toNat - '0'.toNat else c.toLower.toNat - 'a'.toNat + 10) 0

def isHexDigit (c : Char) : Bool :=
  c.isDigit || ('a' ≤ c && c ≤ 'f') || ('A' ≤ c && c ≤ 'F')

/-- Digits among which single underscores may stand, without these. -/
def digits? (isDigit : Char → Bool) : List Char → Option (List Char)
  | [] => none
  | [c] => if isDigit c then some [c] else none
  | c :: '_' :: rest => if isDigit c then (digits? isDigit rest).map (c :: ·) else none
  | c :: rest => if isDigit c then (digits? isDigit rest).map (c :: ·) else none

/-- Decimal digits that do not begin with a superfluous zero. -/
def wholeDigits? (chars : List Char) : Option (List Char) :=
  match chars with
  | '0' :: _ :: _ => none
  | chars => digits? Char.isDigit chars

def cutSign : List Char → Bool × List Char
  | '-' :: rest => (true, rest)
  | '+' :: rest => (false, rest)
  | chars => (false, chars)

def fixedDigits? (count : Nat) (chars : List Char) : Option (Nat × List Char) :=
  let digits := chars.take count
  if digits.length = count && digits.all Char.isDigit then
    some (digitsValue 10 digits, chars.drop count)
  else none

def expect? (c : Char) : List Char → Option (List Char)
  | d :: rest => if c = d then some rest else none
  | [] => none

def isLeap (year : Nat) : Bool := year % 4 = 0 && (year % 100 ≠ 0 || year % 400 = 0)

def daysIn (year month : Nat) : Nat :=
  if month = 2 then (if isLeap year then 29 else 28)
  else if month = 4 || month = 6 || month = 9 || month = 11 then 30
  else 31

def afterDate? (chars : List Char) : Option (List Char) := do
  let (year, rest) ← fixedDigits? 4 chars
  let (month, rest) ← fixedDigits? 2 (← expect? '-' rest)
  let (day, rest) ← fixedDigits? 2 (← expect? '-' rest)
  if 1 ≤ month && month ≤ 12 && 1 ≤ day && day ≤ daysIn year month then some rest else none

def afterFraction? : List Char → Option (List Char)
  | '.' :: c :: rest => if c.isDigit then some (rest.dropWhile Char.isDigit) else none
  | '.' :: _ => none
  | chars => some chars

/-- What follows a time of day; a minute may have a leap second. -/
def afterTime? (chars : List Char) : Option (List Char) := do
  let (hour, rest) ← fixedDigits? 2 chars
  let (minute, rest) ← fixedDigits? 2 (← expect? ':' rest)
  let (second, rest) ← fixedDigits? 2 (← expect? ':' rest)
  if hour ≤ 23 && minute ≤ 59 && second ≤ 60 then afterFraction? rest else none

def afterOffset? (chars : List Char) : Option (List Char) :=
  match chars with
  | 'Z' :: rest | 'z' :: rest => some rest
  | '+' :: rest | '-' :: rest => do
    let (hour, rest) ← fixedDigits? 2 rest
    let (minute, rest) ← fixedDigits? 2 (← expect? ':' rest)
    if hour ≤ 23 && minute ≤ 59 then some rest else none
  | chars => some chars

def isDate (chars : List Char) : Bool := afterDate? chars = some []

def isDateTime (chars : List Char) : Bool :=
  match afterDate? chars with
  | some [] => true
  | some (c :: rest) =>
    (c = 'T' || c = 't' || c = ' ') && (afterTime? rest).bind afterOffset? = some []
  | none => afterTime? chars = some []

/-- The key under which a date shows in a table of its own. No record has a field of that name. -/
def dateKey : String := "date-time"

def ofDateTime (chars : List Char) : Data :=
  .table [(some dateKey, .ofString (String.ofList chars))]

/-- Whole numbers have 64 bits, one of them for the sign. -/
def integerOf? (negative : Bool) (n : Nat) : Option Data :=
  if n < Nat.pow 2 63 || (negative && n = Nat.pow 2 63) then
    let x := Float.ofNat n
    some (.number (some (if negative then -x else x)))
  else none

/-- Powers of ten beyond which every number is infinite or zero. -/
def powerLimit : Int := 400

/-- The number `digits · 10 ^ power`, unless it is infinite without a minus sign. -/
def floatOf? (negative : Bool) (digits : List Char) (power : Int) : Option Data :=
  let n := digitsValue 10 digits
  let top := power + (Nat.toDigits 10 n).length
  let x : Float :=
    if n = 0 || top < -powerLimit then 0
    else if top > powerLimit then 1 / 0
    else Float.ofScientific n (power < 0) power.natAbs
  if x.isInf && !negative then none else some (.number (some (if negative then -x else x)))

def isExponent (c : Char) : Bool := c = 'e' || c = 'E'

/-- The power of ten that an exponent adds, `e` included; nothing adds nothing. -/
def exponent? : List Char → Option Int
  | [] => some 0
  | _ :: chars => do
    let (negative, chars) := cutSign chars
    let n : Int := digitsValue 10 (← digits? Char.isDigit chars)
    return if negative then -n else n

def float? (chars : List Char) : Option Data := do
  let (negative, chars) := cutSign chars
  let whole ← wholeDigits? (chars.takeWhile fun c => c ≠ '.' && !isExponent c)
  match chars.dropWhile fun c => c ≠ '.' && !isExponent c with
  | [] => none
  | '.' :: rest =>
    let fraction ← digits? Char.isDigit (rest.takeWhile fun c => !isExponent c)
    let exponent ← exponent? (rest.dropWhile fun c => !isExponent c)
    floatOf? negative (whole ++ fraction) (exponent - fraction.length)
  | rest => floatOf? negative whole (← exponent? rest)

def integer? (chars : List Char) : Option Data :=
  match chars with
  | '0' :: 'x' :: rest => (digits? isHexDigit rest).bind fun ds => integerOf? false (digitsValue 16 ds)
  | '0' :: 'o' :: rest =>
    (digits? (fun c => '0' ≤ c && c ≤ '7') rest).bind fun ds => integerOf? false (digitsValue 8 ds)
  | '0' :: 'b' :: rest =>
    (digits? (fun c => c = '0' || c = '1') rest).bind fun ds => integerOf? false (digitsValue 2 ds)
  | chars =>
    let (negative, chars) := cutSign chars
    (wholeDigits? chars).bind fun ds => integerOf? negative (digitsValue 10 ds)

def special? (chars : List Char) : Option Data :=
  match cutSign chars with
  | (negative, ['i', 'n', 'f']) => some (.number (some (if negative then -1 / 0 else 1 / 0)))
  | (_, ['n', 'a', 'n']) => some (.number (some (0 / 0)))
  | _ => none

def boolean? (chars : List Char) : Option Data :=
  match String.ofList chars with
  | "true" => some (.bool true)
  | "false" => some (.bool false)
  | _ => none

def scalar? (chars : List Char) : Option Data :=
  if isDateTime chars then some (ofDateTime chars)
  else boolean? chars <|> special? chars <|> float? chars <|> integer? chars

end UtilityCss.Data.Toml
