import UtilityCss.Compile
import UtilityCss.Proofs.Css.Identifier
import UtilityCss.Proofs.Rule.BuiltIn
import UtilityCss.Proofs.Theme.Emit
import UtilityCss.Proofs.Token.Slug
import UtilityCss.Token.Item

/-!
Spacing tokens under all their names. Token files, custom properties, utility classes and the
built-in families put names together on their own, and come to the same ones: no family points at a
property that is not declared.
-/
namespace UtilityCss

open Css.Identifier (isFragmentChar classSelector)

theorem BuiltIn.classSelector_stem {stem : String} (hstem : stem ∈ stems) {suffix : String}
    (h : suffix.toList.all isFragmentChar) :
    classSelector (stem ++ "-" ++ suffix) = "." ++ (stem ++ "-" ++ suffix) := by
  have hstems : ∀ stem ∈ stems, stem.toList ≠ [] ∧ stem.toList.all isFragmentChar ∧
      stem.toList.head?.all fun c => c ≠ '-' ∧ c.isDigit = false := by decide
  obtain ⟨hne, hall, hfirst⟩ := hstems stem hstem
  apply Css.Identifier.classSelector_of_isFragmentChar
  · have hdash : "-".toList.all isFragmentChar := by decide
    simp only [String.toList_append, List.all_append, hall, hdash, h, Bool.and_self]
  · intro c hc
    rw [String.append_assoc, String.toList_append, List.head?_append_of_ne_nil _ hne] at hc
    simpa [Option.mem_def.1 hc] using hfirst

theorem Token.all_of_mem_groupOf {items : List Item} :
    ∀ e ∈ (groupOf items).entries, e.1.toList.all isFragmentChar := by
  apply OrderedMap.forall_ofList
  intro e he
  obtain ⟨item, -, hitem⟩ := List.mem_filterMap.1 he
  obtain ⟨v, -, rfl⟩ := Option.map_eq_some_iff.1 hitem
  exact all_slugify item.name

theorem Token.exists_get?_groupOf {items : List Item} {item : Item} (hitem : item ∈ items)
    (hvalue : item.value.isSome) :
    ∃ value, (groupOf items).get? (slugify item.name) = some value := by
  obtain ⟨v, hv⟩ := Option.isSome_iff_exists.1 hvalue
  apply Option.isSome_iff_exists.1
  apply OrderedMap.isSome_get?_ofList
  apply List.mem_map.2
  have hentry : item.value.map (fun v => (slugify item.name, v.tokenValue)) =
      some (slugify item.name, v.tokenValue) := by
    rw [hv]
    rfl
  exact ⟨_, List.mem_filterMap.2 ⟨item, hitem, hentry⟩, rfl⟩

namespace Theme

variable {registry : Registry} {tokens : TokenGroup}

def spacingUtilities (stem : String) : UtilityFamily := ⟨GroupName.spacing, stem, "--" ++ stem⟩

theorem utilities_defaults (h : registry.get? GroupName.spacing = some tokens) :
    utilities registry UtilityFamily.defaults .skipGroup =
      BuiltIn.stems.flatMap fun stem => (spacingUtilities stem).fragments tokens := by
  have hfamilies : UtilityFamily.defaults = BuiltIn.stems.map spacingUtilities := rfl
  rw [hfamilies]
  simp [utilities_eq_flatMap, resolve, BuiltIn.stems, spacingUtilities, h]

variable {token : String} {value : TokenValue} {stem other : String}

theorem selector_spacingUtilities (hstem : stem ∈ BuiltIn.stems)
    (h : token.toList.all isFragmentChar) :
    (spacingUtilities stem).selector token = "." ++ (stem ++ "-" ++ token) :=
  BuiltIn.classSelector_stem hstem h

/-- Of the classes of a built-in family at most one is for the token, and none if the token is that
of another family. -/
theorem filter_spacingUtilities (htokens : ∀ e ∈ tokens.entries, e.1.toList.all isFragmentChar)
    (h : tokens.get? token = some value) (hstem : stem ∈ BuiltIn.stems)
    (hother : other ∈ BuiltIn.stems) :
    ((spacingUtilities other).fragments tokens).filter
        (fun f => f.selector = "." ++ (stem ++ "-" ++ token)) =
      if other = stem then [(spacingUtilities stem).fragment token value] else [] := by
  have htoken : token.toList.all isFragmentChar := htokens _ (OrderedMap.mem_of_get? h)
  split
  · next hsame =>
    subst hsame
    rw [← selector_spacingUtilities hother htoken]
    apply UtilityFamily.filter_fragments h
    intro e he hselector
    rw [selector_spacingUtilities hother (htokens e he),
      selector_spacingUtilities hother htoken] at hselector
    simpa [← String.toList_inj] using hselector
  · next hdiffer =>
    rw [List.filter_eq_nil_iff]
    intro f hf hselector
    obtain ⟨e, he, rfl⟩ := List.mem_map.1 hf
    have hclass := (selector_spacingUtilities hother (htokens e he)).symm.trans
      (of_decide_eq_true hselector)
    have hname : other ++ "-" ++ e.1 = stem ++ "-" ++ token := by
      simpa [← String.toList_inj] using hclass
    exact hdiffer (BuiltIn.stem_inj hother hstem hname)

theorem filter_utilities_defaults (hregistry : registry.get? GroupName.spacing = some tokens)
    (htokens : ∀ e ∈ tokens.entries, e.1.toList.all isFragmentChar)
    (h : tokens.get? token = some value) (hstem : stem ∈ BuiltIn.stems) :
    (utilities registry UtilityFamily.defaults .skipGroup).filter
        (fun f => f.selector = "." ++ (stem ++ "-" ++ token)) =
      [⟨"." ++ (stem ++ "-" ++ token), .components, .singleton ("--" ++ stem) value.css⟩] := by
  have htoken : token.toList.all isFragmentChar := htokens _ (OrderedMap.mem_of_get? h)
  have hfragment : (spacingUtilities stem).fragment token value =
      ⟨"." ++ (stem ++ "-" ++ token), .components, .singleton ("--" ++ stem) value.css⟩ := by
    rw [UtilityFamily.fragment, selector_spacingUtilities hstem htoken]
    rfl
  have honce : ∀ f : Css.Fragment,
      (BuiltIn.stems.flatMap fun other => if other = stem then [f] else []) = [f] := by
    intro f
    simp only [BuiltIn.stems, List.mem_cons, List.not_mem_nil, or_false] at hstem
    rcases hstem with rfl | rfl | rfl <;> simp [BuiltIn.stems]
  rw [utilities_defaults hregistry, List.filter_flatMap,
    List.flatMap_congr fun other hother => filter_spacingUtilities htokens h hstem hother, honce,
    hfragment]

/-- The token's property is declared last of all, with the token's value. -/
theorem get?_customProperties_spacing (hregistry : registry.get? GroupName.spacing = some tokens)
    (h : tokens.get? token = some value) :
    (customProperties registry PropertyGroup.defaults .skipGroup).get? ("--space-" ++ token) =
      some value.css := by
  let g : PropertyGroup := ⟨GroupName.spacing, "space"⟩
  have hgroups : PropertyGroup.defaults = PropertyGroup.defaults.dropLast ++ [g] := rfl
  have hname : "--space-" ++ token = g.propertyName token := rfl
  rw [hgroups, customProperties_concat hregistry, hname, g.get?_declare, h]
  rfl

end Theme

/-- A spacing token that an item gives has one class in each built-in family. Asked for as a token,
the class refers to the property that the root declares for the spacing token, and the utility of
the same selector has the value of that property. -/
theorem Compiler.spacing_agrees {items : List Token.Item} {item : Token.Item}
    (hitem : item ∈ items) (hvalue : item.value.isSome)
    (hname : item.name.toList.any Char.isAlphanum) {registry : Theme.Registry}
    (hregistry : registry.get? Theme.GroupName.spacing = some (Token.groupOf items)) :
    let config : StyleConfig := {}
    let n := Token.slugify item.name
    ∃ table value root,
      config.ruleTable (some Regex.sizeLimit) = .ok table ∧
      (Token.groupOf items).get? n = some value ∧
      Theme.rootFragment (Theme.customProperties registry config.customProperties
        config.missingGroups) = some root ∧
      root.selector = ":root" ∧ root.declarations.get? ("--space-" ++ n) = some value.css ∧
      ∀ f ∈ ["flow-space", "region-space", "gutter"],
        (∃ i, (table.listing.map RuleInfo.name)[i]? = some f ∧
          table.dispatch (f ++ "-" ++ n) = some ⟨i, [⟨"." ++ (f ++ "-" ++ n), .components,
            .singleton ("--" ++ f) ("var(--space-" ++ n ++ ")")⟩]⟩) ∧
        ((Theme.utilities registry config.utilities config.missingGroups).filter fun u =>
            u.selector = "." ++ (f ++ "-" ++ n)) =
          [⟨"." ++ (f ++ "-" ++ n), .components, .singleton ("--" ++ f) value.css⟩] := by
  intro config n
  obtain ⟨table, htable⟩ : ∃ table, config.ruleTable (some Regex.sizeLimit) = .ok table :=
    RuleTable.exists_ofRules_iff.2 fun r hr => BuiltIn.exists_compile (by simpa [config] using hr)
  have hrules : RuleTable.ofRules (some Regex.sizeLimit) BuiltIn.rules = .ok table := by
    rw [← htable, StyleConfig.ruleTable, List.map_nil, List.append_nil]
  obtain ⟨value, hget⟩ := Token.exists_get?_groupOf hitem hvalue
  have hproperty := Theme.get?_customProperties_spacing hregistry hget
  have hfragment : Css.Identifier.isFragment n := Token.isFragment_slugify hname
  refine ⟨table, value, _, htable, hget, Theme.rootFragment_of_get? hproperty, rfl, hproperty, ?_⟩
  intro f hf
  refine ⟨?_, Theme.filter_utilities_defaults hregistry Token.all_of_mem_groupOf hget hf⟩
  obtain ⟨i, hi, hdispatch⟩ := BuiltIn.dispatch_family hrules hf hfragment
  refine ⟨i, hi, ?_⟩
  rw [hdispatch, Rule.familyFragment, BuiltIn.classSelector_stem hf (Token.all_slugify item.name)]
  rfl

theorem Compiler.spacing_agrees_one_slug :
    let items : List Token.Item :=
      [{ name := "XL / 2XL", value := some (.text "1rem") },
        { name := "xl_2xl", value := some (.text "2rem") }]
    let registry : Theme.Registry :=
      .ofList [("colors", .singleton "ink" (.scalar "#111")), ("spacing", Token.groupOf items)]
    let config : StyleConfig := {}
    ∃ table root, config.ruleTable (some Regex.sizeLimit) = .ok table ∧
      Theme.rootFragment (Theme.customProperties registry config.customProperties
        config.missingGroups) = some root ∧
      root.declarations.get? "--space-xl-2xl" = some "2rem" ∧
      (∃ i, table.dispatch "gutter-xl-2xl" = some ⟨i, [⟨".gutter-xl-2xl", .components,
        .singleton "--gutter" "var(--space-xl-2xl)"⟩]⟩) ∧
      ((Theme.utilities registry config.utilities config.missingGroups).filter fun u =>
        u.selector = ".gutter-xl-2xl") =
        [⟨".gutter-xl-2xl", .components, .singleton "--gutter" "2rem"⟩] := by
  intro items registry config
  have hitem : { name := "XL / 2XL", value := some (.text "1rem") } ∈ items :=
    List.mem_cons_self ..
  have hregistry : registry.get? Theme.GroupName.spacing = some (Token.groupOf items) := rfl
  obtain ⟨table, value, root, htable, hvalue, hroot, -, hproperty, hfamilies⟩ :=
    Compiler.spacing_agrees hitem rfl (by decide) hregistry
  have hslug : Token.slugify "XL / 2XL" = "xl-2xl" := by decide
  have hlast : (Token.groupOf items).get? "xl-2xl" = some (.scalar "2rem") := by rfl
  rw [hslug] at hvalue hproperty hfamilies
  obtain rfl : .scalar "2rem" = value := Option.some.inj (hlast.symm.trans hvalue)
  obtain ⟨⟨i, -, hdispatch⟩, hutility⟩ := hfamilies "gutter" (by decide)
  exact ⟨table, root, htable, hroot, hproperty, ⟨i, hdispatch⟩, hutility⟩

end UtilityCss
