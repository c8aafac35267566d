import UtilityCss.Rule.Template

/-! Rules as a configuration gives them: a pattern, and one property with a value template. -/
namespace UtilityCss

open Css (Layer)

structure RuleSpec where
  name : String
  pattern : String
  property : String
  value : String
  layer : Option Layer := none
  deriving DecidableEq, Repr, Inhabited

namespace RuleSpec

def arity (spec : RuleSpec) : Nat := Template.arity spec.value

def output (spec : RuleSpec) (m : RuleMatch) : RuleOutput :=
  match Template.expand spec.value m with
  | some value => .ofDeclarations (.singleton spec.property value)
  | none => []

def rule (spec : RuleSpec) : Rule where
  name := spec.name
  matcher := .pattern spec.pattern spec.arity
  layer := spec.layer.getD .components
  output := fun m _ => spec.output m

end RuleSpec

end UtilityCss
