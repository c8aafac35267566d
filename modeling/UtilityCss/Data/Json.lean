import UtilityCss.Data.Basic
import UtilityCss.Data.Numeral
import UtilityCss.Unicode.CharSet

/-!
Reads JSON, one character at a time. Values that are not complete wait on a stack; there is no bound
on its height.
-/
namespace UtilityCss.Data

namespace Json

/-- The characters of a text so far, last first. -/
structure TextSoFar where
  chars : List Char := []
  /-- The first half of a surrogate pair, if the second has to follow. -/
  half : Option Nat := none
  /-- Half of a surrogate pair has stood alone. -/
  broken : Bool := false
  deriving DecidableEq, Repr, Inhabited

namespace TextSoFar

def push (t : TextSoFar) (c : Char) : TextSoFar :=
  { chars := c :: t.chars, half := none, broken := t.broken || t.half.isSome }

def pushUnit (t : TextSoFar) (n : Nat) : TextSoFar :=
  if 0xd800 ≤ n && n < 0xdc00 then
    { t with half := some n, broken := t.broken || t.half.isSome }
  else if 0xdc00 ≤ n && n < 0xe000 then
    match t.half with
    | some high =>
      { t with
        chars := Char.ofNat (0x10000 + (high - 0xd800) * 0x400 + (n - 0xdc00)) :: t.chars
        half := none }
    | none => { t with broken := true }
  else t.push (Char.ofNat n)

def text? (t : TextSoFar) : Option String :=
  if t.broken || t.half.isSome then none else some (String.ofList t.chars.reverse)

end TextSoFar

inductive NumeralPhase where
  | sign
  | zero
  | whole
  | point
  | fraction
  | exponent
  | exponentSign
  | exponentDigits
  deriving DecidableEq, Repr, Inhabited

namespace NumeralPhase

def isFinal : NumeralPhase → Bool
  | zero | whole | fraction | exponentDigits => true
  | _ => false

def isExponent (c : Char) : Bool := c = 'e' || c = 'E'

def next (n : Numeral) (c : Char) : NumeralPhase → Option (Numeral × NumeralPhase)
  | sign =>
    if c = '0' then some ({ n with whole := [c] }, zero)
    else if c.isDigit then some ({ n with whole := [c] }, whole)
    else none
  | zero =>
    if c = '.' then some (n, point)
    else if isExponent c then some (n, exponent)
    else none
  | whole =>
    if c.isDigit then some ({ n with whole := c :: n.whole }, whole)
    else if c = '.' then some (n, point)
    else if isExponent c then some (n, exponent)
    else none
  | point =>
    if c.isDigit then some ({ n with fraction := [c] }, fraction) else none
  | fraction =>
    if c.isDigit then some ({ n with fraction := c :: n.fraction }, fraction)
    else if isExponent c then some (n, exponent)
    else none
  | exponent =>
    if c = '+' then some (n, exponentSign)
    else if c = '-' then some ({ n with exponentNegative := true }, exponentSign)
    else if c.isDigit then some ({ n with exponent := [c] }, exponentDigits)
    else none
  | exponentSign =>
    if c.isDigit then some ({ n with exponent := [c] }, exponentDigits) else none
  | exponentDigits =>
    if c.isDigit then some ({ n with exponent := c :: n.exponent }, exponentDigits) else none

end NumeralPhase

inductive Frame where
  | list (items : List Data)
  | table (entries : List (Option String × Data)) (key : Option String)
  deriving Inhabited

inductive Mode where
  | value
  | firstItem
  | firstKey
  | key
  | colon
  | after
  | text (isKey : Bool) (t : TextSoFar)
  | escape (isKey : Bool) (t : TextSoFar)
  | unit (isKey : Bool) (t : TextSoFar) (digits : List Char)
  | word (rest : List Char) (value : Data)
  /-- In a number, whose digits are kept last first. -/
  | number (n : Numeral) (phase : NumeralPhase)
  deriving Inhabited

structure Reader where
  mode : Mode := .value
  stack : List Frame := []
  result : Option Data := none
  deriving Inhabited

namespace Reader

def enter (r : Reader) (mode : Mode) : Reader := { r with mode }

def complete (r : Reader) (value : Data) : Reader :=
  match r.stack with
  | [] => { r with mode := .after, result := some value }
  | .list items :: stack => { r with mode := .after, stack := .list (value :: items) :: stack }
  | .table entries key :: stack =>
    { r with mode := .after, stack := .table ((key, value) :: entries) none :: stack }

def setKey (r : Reader) (key : Option String) : Reader :=
  match r.stack with
  | .table entries _ :: stack => { r with mode := .colon, stack := .table entries key :: stack }
  | _ => r

def isBlank (c : Char) : Bool := c = ' ' || c = '\t' || c = '\n' || c = '\r'

def valueStep (r : Reader) (c : Char) : Option Reader :=
  match c with
  | '"' => some (r.enter (.text false {}))
  | '[' => some { r with mode := .firstItem, stack := .list [] :: r.stack }
  | '{' => some { r with mode := .firstKey, stack := .table [] none :: r.stack }
  | 't' => some (r.enter (.word "rue".toList (.bool true)))
  | 'f' => some (r.enter (.word "alse".toList (.bool false)))
  | 'n' => some (r.enter (.word "ull".toList .null))
  | '-' => some (r.enter (.number { negative := true } .sign))
  | c => (NumeralPhase.sign.next {} c).map fun (n, phase) => r.enter (.number n phase)

def afterStep (r : Reader) (c : Char) : Option Reader :=
  match r.stack, c with
  | .list _ :: _, ',' => some (r.enter .value)
  | .list items :: stack, ']' => some ({ r with stack }.complete (.list items.reverse))
  | .table .. :: _, ',' => some (r.enter .key)
  | .table entries _ :: stack, '}' => some ({ r with stack }.complete (.table entries.reverse))
  | _, _ => none

def keyStep (r : Reader) (c : Char) : Option Reader :=
  if c = '"' then some (r.enter (.text true {})) else none

def textStep (r : Reader) (isKey : Bool) (t : TextSoFar) (c : Char) : Option Reader :=
  if c = '"' then
    if isKey then some (r.setKey t.text?) else some (r.complete (.text t.text?))
  else if c = '\\' then some (r.enter (.escape isKey t))
  else if c.toNat < 0x20 then none
  else some (r.enter (.text isKey (t.push c)))

def escapeStep (r : Reader) (isKey : Bool) (t : TextSoFar) (c : Char) : Option Reader :=
  let push (c : Char) := some (r.enter (.text isKey (t.push c)))
  match c with
  | '"' | '\\' | '/' => push c
  | 'b' => push '\x08'
  | 'f' => push '\x0c'
  | 'n' => push '\n'
  | 'r' => push '\r'
  | 't' => push '\t'
  | 'u' => some (r.enter (.unit isKey t []))
  | _ => none

def isHexDigit (c : Char) : Bool :=
  c.isDigit || ('a' ≤ c && c ≤ 'f') || ('A' ≤ c && c ≤ 'F')

def unitStep (r : Reader) (isKey : Bool) (t : TextSoFar) (digits : List Char) (c : Char) :
    Option Reader :=
  let digits := digits ++ [c]
  if !isHexDigit c then none
  else if digits.length < 4 then some (r.enter (.unit isKey t digits))
  else some (r.enter (.text isKey (t.pushUnit (Unicode.CharSet.hexNumber digits))))

def numeral (n : Numeral) : Data :=
  .number { n with
    whole := n.whole.reverse, fraction := n.fraction.reverse, exponent := n.exponent.reverse }.value?

def step (r : Reader) (c : Char) : Option Reader :=
  match r.mode with
  | .value => if isBlank c then some r else r.valueStep c
  | .firstItem =>
    if isBlank c then some r
    else if c = ']' then { r with mode := .after }.afterStep c
    else r.valueStep c
  | .firstKey =>
    if isBlank c then some r
    else if c = '}' then { r with mode := .after }.afterStep c
    else r.keyStep c
  | .key => if isBlank c then some r else r.keyStep c
  | .colon => if isBlank c then some r else if c = ':' then some (r.enter .value) else none
  | .after => if isBlank c then some r else r.afterStep c
  | .text isKey t => r.textStep isKey t c
  | .escape isKey t => r.escapeStep isKey t c
  | .unit isKey t digits => r.unitStep isKey t digits c
  | .word rest value =>
    match rest with
    | [] => none
    | [d] => if c = d then some (r.complete value) else none
    | d :: rest => if c = d then some (r.enter (.word rest value)) else none
  | .number n phase =>
    match phase.next n c with
    | some (n, phase) => some (r.enter (.number n phase))
    | none =>
      if !phase.isFinal then none
      else
        let r := r.complete (numeral n)
        if isBlank c then some r else r.afterStep c

def finish (r : Reader) : Option Data :=
  match r.mode, r.stack with
  | .after, [] => r.result
  | .number n phase, [] => if phase.isFinal then some (numeral n) else none
  | _, _ => none

end Reader

end Json

def ofJson? (text : String) : Option Data := do
  (← text.toList.foldlM Json.Reader.step {}).finish

end UtilityCss.Data
