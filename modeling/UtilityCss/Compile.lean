import UtilityCss.Config.Basic
import UtilityCss.Text.Distinct

/-!
Compilation: a theme, a rule table, a configuration and the tokens that are asked for give a
stylesheet. Neither the order of the tokens nor their number matters: what they give is ordered by
rule, and by token within a rule.
-/
namespace UtilityCss

open Css (Fragment)

/-- A stylesheet's text, with how many different tokens gave something to it and how many gave
nothing. -/
structure Compilation where
  css : String
  matched : Nat
  unmatched : Nat
  deriving DecidableEq, Repr, Inhabited

structure Compiler where
  registry : Theme.Registry
  rules : RuleTable
  config : StyleConfig

namespace Compiler

def themeFragments (c : Compiler) : List Fragment :=
  (Theme.rootFragment
      (Theme.customProperties c.registry c.config.customProperties c.config.missingGroups)).toList ++
    Theme.utilities c.registry c.config.utilities c.config.missingGroups

/-- The different tokens asked for, in ascending order. The empty one is none. -/
def requested (tokens : List String) : List String :=
  Text.distinct (tokens.filter fun t => !t.isEmpty)

def dispatches (table : RuleTable) (tokens : List String) : List Dispatch :=
  tokens.filterMap fun token => (table.dispatch token).filter fun d => !d.fragments.isEmpty

/-- Ordered by rule; dispatches of one rule stay in their order. -/
def byRule (dispatches : List Dispatch) : List Dispatch :=
  dispatches.mergeSort fun a b => decide (a.rule ≤ b.rule)

def compile (c : Compiler) (tokens : List String) : Compilation :=
  let requested := requested tokens
  let found := dispatches c.rules requested
  { css := Css.Stylesheet.compose (c.themeFragments ++ (byRule found).flatMap Dispatch.fragments)
      c.config.output
    matched := found.length
    unmatched := requested.length - found.length }

end Compiler

end UtilityCss
