import UtilityCss.Proofs.Compile.Order
import UtilityCss.Proofs.Rule.BuiltIn
import UtilityCss.Proofs.Rule.Sealed
import UtilityCss.Proofs.Rule.Table
import UtilityCss.Proofs.Theme.Sealed

/-!
No token breaks out of its rule. Where the theme and the configuration are of clean strings, all
fragments are sealed, whatever the tokens, and so the stylesheet is read as just these fragments.
-/
namespace UtilityCss

open Css

namespace StyleConfig

/-- The configuration's own strings hold no structure. What utility classes and rules are called
does not matter, nor does what the patterns are. -/
structure IsClean (config : StyleConfig) : Prop where
  customProperties : ∀ g ∈ config.customProperties, IsName g.stem.toList
  utilities : ∀ f ∈ config.utilities, IsName f.property.toList
  rules : ∀ spec ∈ config.rules, IsName spec.property.toList ∧ Css.IsClean spec.value.toList

theorem sealed_builtIn {limit : Option Nat} {r : Rule} {c : CompiledRule} (hr : r ∈ BuiltIn.rules)
    (h : r.compile limit = .ok c) : c.IsSealed := by
  obtain hlayout | hfamily := List.mem_append.1 hr
  · exact Rule.sealed_of_output h (BuiltIn.sealed_layouts r hlayout)
  · obtain ⟨name, hname, rfl⟩ := List.mem_map.1 hfamily
    have hnames : ∀ name ∈ ["flow-space", "region-space", "gutter"],
        IsName ("--" ++ name).toList := by decide
    have htarget : IsName "space".toList := by decide
    exact Rule.sealed_variableFamily (hnames name hname) htarget h

theorem sealed_ruleTable {config : StyleConfig} (hconfig : config.IsClean) {limit : Option Nat}
    {table : RuleTable} (h : config.ruleTable limit = .ok table) :
    ∀ c ∈ table.rules, c.IsSealed := by
  intro c hc
  obtain ⟨r, hr, hcompile⟩ := (RuleTable.mem_ofRules h).1 hc
  obtain hbuiltIn | hconfigured := List.mem_append.1 hr
  · exact sealed_builtIn hbuiltIn hcompile
  · obtain ⟨spec, hspec, rfl⟩ := List.mem_map.1 hconfigured
    obtain ⟨hproperty, hvalue⟩ := hconfig.rules spec hspec
    exact Rule.sealed_of_output hcompile (RuleSpec.sealed_output hproperty hvalue)

theorem exists_ruleTable {config : StyleConfig}
    (h : ∀ spec ∈ config.rules, ∃ c, spec.rule.compile (some Regex.sizeLimit) = .ok c) :
    ∃ table, config.ruleTable (some Regex.sizeLimit) = .ok table := by
  apply RuleTable.exists_ofRules_iff.2
  intro r hr
  obtain hbuiltIn | hconfigured := List.mem_append.1 hr
  · exact BuiltIn.exists_compile hbuiltIn
  · obtain ⟨spec, hspec, rfl⟩ := List.mem_map.1 hconfigured
    exact h spec hspec

end StyleConfig

namespace Compiler

theorem sealed_fragments {c : Compiler} (hregistry : c.registry.IsClean)
    (hconfig : c.config.IsClean) (hrules : ∀ r ∈ c.rules.rules, r.IsSealed)
    (tokens : List String) : ∀ f ∈ c.fragments tokens, f.IsSealed := by
  have htheme : ∀ f ∈ c.themeFragments, f.IsSealed := by
    intro f hf
    obtain hroot | hutility := List.mem_append.1 hf
    · apply Theme.sealed_rootFragment _ f hroot
      exact Theme.isClean_customProperties hregistry hconfig.customProperties
    · exact Theme.sealed_utilities hregistry hconfig.utilities f hutility
  intro f hf
  obtain hf | hf := List.mem_append.1 hf
  · exact htheme f hf
  · obtain ⟨d, hd, hf⟩ := List.mem_flatMap.1 hf
    obtain ⟨token, _, hdispatch, _⟩ := mem_dispatches.1 (List.mem_mergeSort.1 hd)
    obtain ⟨r, hr, hfragments⟩ := RuleTable.exists_rule_of_dispatchFrom hdispatch
    exact (hrules r hr).fragments hfragments f hf

/-- A stylesheet is read back as the fragments that were composed, whatever tokens were asked for:
none of them adds a rule, ends one early, or changes another. -/
theorem compile_isolates {registry : Theme.Registry} {config : StyleConfig}
    (hregistry : registry.IsClean) (hconfig : config.IsClean) {limit : Option Nat}
    {table : RuleTable} (htable : config.ruleTable limit = .ok table) (tokens : List String) :
    let c : Compiler := ⟨registry, table, config⟩
    (c.compile tokens).css = Stylesheet.compose (c.fragments tokens) config.output ∧
      Reader.read .escaped config.output (c.compile tokens).css =
        some ((Stylesheet.canonical (c.fragments tokens)).map
          (StyleRule.ofFragment config.output.layers)) := by
  intro c
  refine ⟨c.compile_css tokens, ?_⟩
  -- Whether the reader finds its way depends on the single fragments, not on how they are written.
  rw [compile_css]
  apply Stylesheet.read_compose
  intro f hf
  have hsealed : ∀ f ∈ c.fragments tokens, f.IsSealed :=
    sealed_fragments hregistry hconfig (StyleConfig.sealed_ruleTable hconfig htable) tokens
  exact (hsealed f (Stylesheet.mem_canonical.1 hf).1).readable

theorem compile_isolates_hostile :
    let registry : Theme.Registry :=
      .singleton "fontFamily" (.singleton "text" (.list ["Georgia", "serif"]))
    let config : StyleConfig := { rules := [⟨"odd", "x;\x7d", "color", "$$red", none⟩] }
    let tokens := ["x;\x7d", "\\", "a\x7b:\n", "gutter-s;", "gutter-s", "\x00"]
    registry.IsClean ∧ config.IsClean ∧
      ∃ table, config.ruleTable (some Regex.sizeLimit) = .ok table ∧
        let c : Compiler := ⟨registry, table, config⟩
        Reader.read .escaped config.output (c.compile tokens).css =
          some ((Stylesheet.canonical (c.fragments tokens)).map (StyleRule.ofFragment .layered)) := by
  intro registry config tokens
  have hitems : ∀ item ∈ ["Georgia", "serif"], Css.IsClean item.toList := by decide
  have hregistry : registry.IsClean :=
    OrderedMap.forall_singleton (OrderedMap.forall_singleton ⟨by decide, hitems⟩)
  have hconfig : config.IsClean := ⟨by decide, by decide, by decide⟩
  have htable : ∃ table, config.ruleTable (some Regex.sizeLimit) = .ok table := by
    apply StyleConfig.exists_ruleTable
    intro spec hspec
    obtain rfl := List.mem_singleton.1 hspec
    exact ⟨_, rfl⟩
  obtain ⟨table, htable⟩ := htable
  exact ⟨hregistry, hconfig, table, htable,
    (compile_isolates hregistry hconfig htable tokens).2⟩

end Compiler

end UtilityCss
