import UtilityCss.Regex.Builder
import UtilityCss.Regex.Search
import UtilityCss.Regex.Size

/-! Compiled regular expressions. -/
namespace UtilityCss

structure Regex where
  groupCount : Nat
  /-- The largest index of a capture group. -/
  lastGroup : Nat
  program : Array Regex.Instruction
  deriving DecidableEq, Repr, Inhabited

namespace Regex

/-- The regular expression `e`, provided that it takes no more room than `limit`, if that is set. -/
def ofExpr (limit : Option Nat) (e : Expr) : Except Error Regex :=
  if limit.any fun limit => e.size false > limit || e.size true > limit then .error .tooLarge
  else .ok ⟨e.captureCount, e.lastCapture, e.program⟩

def ofText (limit : Option Nat) (text : List Char) : Except Error Regex := do
  ofExpr limit (← Expr.ofText text)

def group (text : Array Char) (slots : List (Nat × Nat)) (index : Nat) : Option (List Char) :=
  match slots.lookup (2 * index), slots.lookup (2 * index + 1) with
  | some start, some stop => some (text.extract start stop).toList
  | _, _ => none

/-- What the capture groups hold in the first match in a text, from group 1 on. -/
def captures (r : Regex) (text : List Char) : Option (List (Option (List Char))) :=
  let text := text.toArray
  (firstMatch r.program text).map fun slots =>
    (List.range r.lastGroup).map fun i => group text slots (i + 1)

end Regex

def Regex.isMeta (c : Char) : Bool := "\\.+*?()|[]\x7b\x7d^$#&-~".toList.contains c

def Regex.quote (text : List Char) : List Char :=
  text.flatMap fun c => if isMeta c then ['\\', c] else [c]

end UtilityCss
