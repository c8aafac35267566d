import UtilityCss.Rule.Basic

/-!
Rule tables. The first rule that accepts a token decides alone what the token gives, even if that
is nothing.
-/
namespace UtilityCss

open Css (Fragment Layer)

structure RuleTable where
  rules : List CompiledRule

/-- What a token gives, and the place of the rule that accepted it. -/
structure Dispatch where
  rule : Nat
  fragments : List Fragment
  deriving DecidableEq, Repr

structure RuleInfo where
  name : String
  layer : Layer
  isPattern : Bool
  matcher : String
  deriving DecidableEq, Repr, Inhabited

namespace RuleTable

def empty : RuleTable := ⟨[]⟩

def ofRules (limit : Option Nat) (rules : List Rule) : Except RuleError RuleTable := do
  return ⟨← rules.mapM (Rule.compile limit)⟩

/-- Puts further rules behind those of the table one by one, unless one of them is in error. -/
def extend (limit : Option Nat) (table : RuleTable) (rules : List Rule) :
    Except RuleError RuleTable := do
  let mut extended := table
  for r in rules do
    extended := ⟨extended.rules ++ [← r.compile limit]⟩
  return extended

/-- The first of the rules that accepts the token, with its place counted from `start`. -/
def dispatchFrom (token : String) (start : Nat) : List CompiledRule → Option Dispatch
  | [] => none
  | r :: rest =>
    match r.fragments? token with
    | some fragments => some ⟨start, fragments⟩
    | none => dispatchFrom token (start + 1) rest

def dispatch (table : RuleTable) (token : String) : Option Dispatch :=
  dispatchFrom token 0 table.rules

def size (table : RuleTable) : Nat := table.rules.length

def listing (table : RuleTable) : List RuleInfo :=
  table.rules.map fun r => ⟨r.name, r.layer, r.matcher.isPattern, r.matcher.text⟩

end RuleTable

end UtilityCss
