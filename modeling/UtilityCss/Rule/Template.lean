import UtilityCss.Css.Identifier
import UtilityCss.Rule.Basic

/-!
Value templates. `$1` to `$9` stand for what a group has captured, `$0` for the token, and two
dollar signs for one; a dollar sign before anything else stands for itself. Captures enter a value
only as pieces of identifiers.
-/
namespace UtilityCss

namespace Template

def digitValue (c : Char) : Nat := c.toNat - '0'.toNat

/-- The largest index that stands behind a dollar sign; 0 if there is none. -/
def largestIndex : List Char → Nat
  | [] => 0
  | '$' :: '$' :: rest => largestIndex rest
  | '$' :: c :: rest =>
    if c.isDigit then max (digitValue c) (largestIndex rest) else largestIndex (c :: rest)
  | _ :: rest => largestIndex rest

def arity (template : String) : Nat := largestIndex template.toList

/-- What a capture is in a value; none if it is not a piece of an identifier. -/
def captured (m : RuleMatch) (index : Nat) : Option (List Char) :=
  let text := (m.group? index).getD ""
  if Css.Identifier.isFragment text then some text.toList else none

def expandChars (m : RuleMatch) : List Char → Option (List Char)
  | [] => some []
  | '$' :: '$' :: rest => (expandChars m rest).map ('$' :: ·)
  | '$' :: c :: rest =>
    if c.isDigit then
      (captured m (digitValue c)).bind fun text => (expandChars m rest).map (text ++ ·)
    else (expandChars m (c :: rest)).map ('$' :: ·)
  | c :: rest => (expandChars m rest).map (c :: ·)

/-- The value for a match; none if a capture that is read is not a piece of an identifier. -/
def expand (template : String) (m : RuleMatch) : Option String :=
  (expandChars m template.toList).map String.ofList

end Template

end UtilityCss
