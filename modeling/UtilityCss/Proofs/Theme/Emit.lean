import UtilityCss.Proofs.OrderedMap
import UtilityCss.Proofs.Theme.Missing

/-! What a theme emits for one token of one group: its custom property, and its utility class. -/
namespace UtilityCss.Theme

open Css (Declarations)

theorem PropertyGroup.propertyName_injective (g : PropertyGroup) :
    Function.Injective g.propertyName := by
  intro token other h
  simpa [propertyName, ← String.toList_inj] using h

theorem PropertyGroup.get?_declare (g : PropertyGroup) (properties : Declarations)
    (tokens : TokenGroup) (token : String) :
    (g.declare properties tokens).get? (g.propertyName token) =
      ((tokens.get? token).map TokenValue.css).or (properties.get? (g.propertyName token)) :=
  OrderedMap.get?_foldl_insert_map tokens.nodup g.propertyName_injective TokenValue.css
    properties token

theorem customProperties_concat {registry : Registry} {g : PropertyGroup} {tokens : TokenGroup}
    (h : registry.get? g.group = some tokens) (front : List PropertyGroup) :
    customProperties registry (front ++ [g]) .skipGroup =
      g.declare (customProperties registry front .skipGroup) tokens := by
  simp [customProperties_eq_foldl, resolve, h]

theorem rootFragment_of_get? {properties : Declarations} {property value : String}
    (h : properties.get? property = some value) :
    rootFragment properties = some ⟨":root", .base, properties⟩ := by
  have hne : properties.isEmpty = false := by
    rw [OrderedMap.isEmpty, List.isEmpty_eq_false_iff]
    exact List.ne_nil_of_mem (OrderedMap.mem_of_get? h)
  rw [rootFragment, hne]
  rfl

theorem UtilityFamily.filter_fragments {family : UtilityFamily} {tokens : TokenGroup}
    {token : String} {value : TokenValue} (h : tokens.get? token = some value)
    (hselector : ∀ e ∈ tokens.entries, family.selector e.1 = family.selector token → e.1 = token) :
    (family.fragments tokens).filter (fun f => f.selector = family.selector token) =
      [family.fragment token value] := by
  have hsame : ∀ e ∈ tokens.entries,
      decide ((family.fragment e.1 e.2).selector = family.selector token) =
        decide (e.1 = token) := by
    intro e he
    apply decide_eq_decide.2
    exact ⟨hselector e he, congrArg family.selector⟩
  rw [fragments, List.filter_map]
  refine (congrArg (List.map _) (List.filter_congr hsame)).trans ?_
  rw [OrderedMap.filter_entries h]
  rfl

end UtilityCss.Theme
