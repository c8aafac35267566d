import UtilityCss.Proofs.Css.Sealed
import UtilityCss.Proofs.Theme.Missing

/-! A theme of clean strings gives sealed fragments. -/
namespace UtilityCss.Theme

open Css

def TokenValue.IsClean : TokenValue → Prop
  | .scalar text => Css.IsClean text.toList
  | .list items => ∀ item ∈ items, Css.IsClean item.toList

def Registry.IsClean (registry : Registry) : Prop :=
  ∀ group ∈ registry.entries, ∀ token ∈ group.2.entries, IsName token.1.toList ∧ token.2.IsClean

theorem TokenValue.IsClean.css {value : TokenValue} (h : value.IsClean) :
    Css.IsClean value.css.toList := by
  cases value with
  | scalar text => exact h
  | list items =>
    have hcomma : Css.IsClean ", ".toList := by decide
    rw [TokenValue.css, String.toList_intercalate]
    generalize ", ".toList = comma at hcomma
    induction items with
    | nil => exact fun _ hc => nomatch hc
    | cons item rest ih =>
      obtain ⟨hitem, hrest⟩ := List.forall_mem_cons.1 h
      cases rest with
      | nil => simpa using hitem
      | cons next more =>
        simp only [List.map_cons, List.intercalate_cons_cons]
        exact (hitem.append hcomma).append (ih hrest)

variable {registry : Registry} {policy : MissingGroups}

theorem isName_propertyName {g : PropertyGroup} {token : String} (hstem : IsName g.stem.toList)
    (htoken : IsName token.toList) : IsName (g.propertyName token).toList := by
  have hdashes : IsName "--".toList := by decide
  have hdash : IsName "-".toList := by decide
  simp only [PropertyGroup.propertyName, String.toList_append]
  exact ((hdashes.append hstem).append hdash).append htoken

theorem isClean_customProperties {groups : List PropertyGroup} (hregistry : registry.IsClean)
    (hgroups : ∀ g ∈ groups, IsName g.stem.toList) :
    (customProperties registry groups policy).IsClean := by
  have hdeclare : ∀ (found : List (PropertyGroup × TokenGroup)) (properties : Declarations),
      properties.IsClean →
      (∀ r ∈ found, r.1 ∈ groups ∧ (r.1.group, r.2) ∈ registry.entries) →
      (found.foldl (fun properties r => r.1.declare properties r.2) properties).IsClean := by
    intro found
    induction found with
    | nil => exact fun _ hproperties _ => hproperties
    | cons first rest ih =>
      intro properties hproperties hfound
      obtain ⟨⟨hgroup, hentry⟩, hrest⟩ := List.forall_mem_cons.1 hfound
      apply ih _ _ hrest
      apply OrderedMap.forall_foldl_insert hproperties
      intro token htoken
      obtain ⟨hname, hvalue⟩ := hregistry _ hentry token htoken
      exact ⟨isName_propertyName (hgroups _ hgroup) hname, hvalue.css⟩
  rw [customProperties_eq_foldl]
  exact hdeclare _ _ (fun _ he => nomatch he) fun _ hr => mem_resolve hr

theorem sealed_rootFragment {properties : Declarations} (h : properties.IsClean) :
    ∀ f ∈ (rootFragment properties).toList, f.IsSealed := by
  intro f hf
  unfold rootFragment at hf
  split at hf
  · exact absurd hf List.not_mem_nil
  · obtain rfl := List.mem_singleton.1 hf
    have hroot : Css.IsClean ":root".toList := by decide
    exact ⟨hroot.isSealed, h⟩

theorem sealed_utilities {families : List UtilityFamily} (hregistry : registry.IsClean)
    (hfamilies : ∀ f ∈ families, IsName f.property.toList) :
    ∀ f ∈ utilities registry families policy, f.IsSealed := by
  intro f hf
  rw [utilities_eq_flatMap] at hf
  obtain ⟨⟨family, tokens⟩, hfound, hf⟩ := List.mem_flatMap.1 hf
  obtain ⟨token, htoken, rfl⟩ := List.mem_map.1 hf
  obtain ⟨hfamily, hentry⟩ := mem_resolve hfound
  obtain ⟨_, hvalue⟩ := hregistry _ hentry token htoken
  exact ⟨sealed_classSelector _, OrderedMap.forall_singleton ⟨hfamilies _ hfamily, hvalue.css⟩⟩

end UtilityCss.Theme
