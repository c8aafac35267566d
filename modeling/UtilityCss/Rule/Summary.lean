import UtilityCss.Rule.Table
import UtilityCss.Text.Quoted

/-! Rules and tables in one line each, for a look at what they hold. -/
namespace UtilityCss

def Matcher.summary : Matcher → String
  | exact literal => "Exact(" ++ Text.quoted literal ++ ")"
  | pattern text arity =>
    "Pattern \x7b pattern: " ++ Text.quoted text ++ ", arity: " ++ toString arity ++ " \x7d"

def Rule.summary (r : Rule) : String :=
  "Rule \x7b name: " ++ Text.quoted r.name ++ ", source: " ++ r.matcher.summary ++ ", layer: " ++
    r.layer.title ++ ", .. \x7d"

def RuleTable.summary (table : RuleTable) : String :=
  "[" ++ ", ".intercalate (table.rules.map fun r =>
    "(" ++ Text.quoted r.name ++ ", " ++ r.layer.title ++ ")") ++ "]"

end UtilityCss
