import UtilityCss.Css.Stylesheet
import UtilityCss.Rule.BuiltIn
import UtilityCss.Rule.Spec
import UtilityCss.Theme.Emit

/-! The configuration of a stylesheet: what a theme gives to it, which rules there are besides the
built-in ones, and how it is written. -/
namespace UtilityCss

structure StyleConfig where
  customProperties : List Theme.PropertyGroup := Theme.PropertyGroup.defaults
  utilities : List Theme.UtilityFamily := Theme.UtilityFamily.defaults
  rules : List RuleSpec := []
  missingGroups : Theme.MissingGroups := .skipGroup
  output : Css.OutputOptions := {}
  deriving DecidableEq, Repr, Inhabited

namespace StyleConfig

def ruleTable (limit : Option Nat) (config : StyleConfig) : Except RuleError RuleTable :=
  RuleTable.ofRules limit (BuiltIn.rules ++ config.rules.map RuleSpec.rule)

end StyleConfig

end UtilityCss
