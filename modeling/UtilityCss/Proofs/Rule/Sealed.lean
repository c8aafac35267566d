import UtilityCss.Proofs.Css.Sealed
import UtilityCss.Proofs.Rule.Family
import UtilityCss.Proofs.Rule.Template

/-!
Rules of clean strings give sealed fragments for every token that they accept. Layouts give what
they always give, and captures stand in values only where they are pieces of identifiers.
-/
namespace UtilityCss

open Css

structure RuleBlock.IsSealed (b : RuleBlock) : Prop where
  selector : ∀ selector : String, Sealed selector.toList → Sealed (b.selector selector).toList
  declarations : b.declarations.IsClean

def CompiledRule.IsSealed (c : CompiledRule) : Prop :=
  ∀ token m, c.matcher.accept token = some m →
    ∀ selector, ∀ b ∈ c.output m selector, b.IsSealed

theorem CompiledRule.IsSealed.fragments {c : CompiledRule} (h : c.IsSealed) {token : String}
    {fragments : List Fragment} (hfragments : c.fragments? token = some fragments) :
    ∀ f ∈ fragments, f.IsSealed := by
  intro f hf
  obtain ⟨m, hm, rfl⟩ := Option.map_eq_some_iff.1 hfragments
  obtain ⟨b, hb, rfl⟩ := List.mem_map.1 hf
  have hsealed : b.IsSealed := h token m hm _ b (List.mem_filter.1 hb).1
  exact ⟨hsealed.selector _ (sealed_classSelector token), hsealed.declarations⟩

theorem RuleBlock.sealed_of_declarations {declarations : Declarations} (h : declarations.IsClean) :
    ∀ b ∈ RuleOutput.ofDeclarations declarations, b.IsSealed := by
  intro b hb
  obtain rfl := List.mem_singleton.1 hb
  exact ⟨fun _ hselector => hselector, h⟩

namespace Rule

variable {limit : Option Nat} {r : Rule} {c : CompiledRule}

theorem sealed_of_output (h : r.compile limit = .ok c)
    (houtput : ∀ m selector, ∀ b ∈ r.output m selector, b.IsSealed) : c.IsSealed := by
  intro token m _ selector
  rw [(compile_eq_ok h).2.2.1]
  exact houtput m selector

theorem sealed_variableFamily {name stem property target : String}
    (hproperty : IsName property.toList) (htarget : IsName target.toList)
    (h : (variableFamily name stem property target).compile limit = .ok c) : c.IsSealed := by
  intro token m hm selector
  obtain ⟨suffix, hfragment, _, rfl⟩ := (accept_variableFamily h).1 hm
  have hall : suffix.toList.all Identifier.isFragmentChar := by
    simp only [Identifier.isFragment, Bool.and_eq_true] at hfragment
    exact hfragment.2
  have hsuffix : IsClean suffix.toList := (isName_of_isFragmentChar hall).isClean
  have hopen : IsClean "var(--".toList := by decide
  have hdash : IsClean "-".toList := by decide
  have hclose : IsClean ")".toList := by decide
  rw [(compile_eq_ok h).2.2.1]
  apply RuleBlock.sealed_of_declarations
  apply OrderedMap.forall_singleton
  refine ⟨hproperty, ?_⟩
  simp only [String.toList_append]
  exact (((hopen.append htarget.isClean).append hdash).append hsuffix).append hclose

end Rule

namespace BuiltIn

variable {pairs : List (String × String)}

theorem sealed_own (h : ∀ e ∈ pairs, CleanDeclaration e) : (own pairs).IsSealed :=
  ⟨fun _ hselector => hselector, OrderedMap.forall_ofList h⟩

theorem sealed_attributed {condition : String} (hcondition : IsClean condition.toList)
    (h : ∀ e ∈ pairs, CleanDeclaration e) : (attributed condition pairs).IsSealed where
  selector := by
    intro selector hselector
    simp only [attributed, String.toList_append]
    exact hselector.append hcondition.isSealed
  declarations := OrderedMap.forall_ofList h

theorem sealed_related {combinator : String} (hcombinator : IsClean combinator.toList)
    (h : ∀ e ∈ pairs, CleanDeclaration e) : (related combinator pairs).IsSealed where
  selector := by
    intro selector hselector
    have hblank : IsClean " ".toList := by decide
    simp only [related, String.toList_append]
    exact (hselector.append hblank.isSealed).append hcombinator.isSealed
  declarations := OrderedMap.forall_ofList h

theorem sealed_layouts :
    ∀ r ∈ layouts, ∀ m selector, ∀ b ∈ r.output m selector, b.IsSealed := by
  intro r hr m selector b hb
  simp only [layouts, List.mem_cons, List.not_mem_nil, or_false] at hr
  rcases hr with rfl | rfl | rfl | rfl | rfl | rfl | rfl | rfl | rfl <;>
    simp only [flow, cluster, wrapper, region, visuallyHidden, switcher, sidebar, repel, grid,
      layout, List.mem_cons, List.not_mem_nil, or_false] at hb <;>
    rcases hb with rfl | rfl | rfl <;>
    first
      | apply sealed_own
      | apply sealed_related (by decide)
      | apply sealed_attributed (by decide)
  all_goals
    simp only [List.forall_mem_cons, List.not_mem_nil, false_imp_iff, implies_true, and_true]
    and_intros <;> apply CleanDeclaration.ofList <;> decide

end BuiltIn

namespace Template

theorem isClean_of_isIdentifierText {text : String} (h : IsIdentifierText text) :
    IsClean text.toList := by
  have hfragment := isFragment_iff.2 h
  simp only [Identifier.isFragment, Bool.and_eq_true] at hfragment
  exact (isName_of_isFragmentChar hfragment.2).isClean

/-- What is not the template's own is a piece of an identifier. -/
theorem isClean_value {m : RuleMatch} {template : List Char} {pieces : List Piece}
    (h : Splits template pieces) (htemplate : IsClean template)
    (hadmitted : ∀ p ∈ pieces, p.IsAdmitted m) : IsClean (pieces.flatMap (Piece.value m)) := by
  induction h with
  | nil => exact htemplate
  | char _ _ ih | lone _ _ ih =>
    obtain ⟨hc, hrest⟩ := List.forall_mem_cons.1 htemplate
    obtain ⟨-, hothers⟩ := List.forall_mem_cons.1 hadmitted
    exact List.forall_mem_cons.2 ⟨hc, ih hrest hothers⟩
  | doubled _ ih =>
    obtain ⟨hdollar, hbehind⟩ := List.forall_mem_cons.1 htemplate
    obtain ⟨-, hrest⟩ := List.forall_mem_cons.1 hbehind
    obtain ⟨-, hothers⟩ := List.forall_mem_cons.1 hadmitted
    exact List.forall_mem_cons.2 ⟨hdollar, ih hrest hothers⟩
  | @capture digit _ _ _ _ ih =>
    obtain ⟨-, hbehind⟩ := List.forall_mem_cons.1 htemplate
    obtain ⟨-, hrest⟩ := List.forall_mem_cons.1 hbehind
    obtain ⟨⟨text, htext, hidentifier⟩, hothers⟩ := List.forall_mem_cons.1 hadmitted
    have hcapture : IsClean (Piece.value m (.capture digit)) := by
      rw [Piece.value, htext]
      exact isClean_of_isIdentifierText hidentifier
    exact hcapture.append (ih hrest hothers)

theorem isClean_expand {template value : String} {m : RuleMatch}
    (htemplate : IsClean template.toList) (h : expand template m = some value) :
    IsClean value.toList := by
  obtain ⟨pieces, hpieces⟩ := exists_splits template.toList
  obtain ⟨hadmitted, rfl⟩ := (expand_eq_some_iff hpieces).1 h
  rw [String.toList_ofList]
  exact isClean_value hpieces htemplate hadmitted

end Template

theorem RuleSpec.sealed_output {spec : RuleSpec} (hproperty : IsName spec.property.toList)
    (hvalue : IsClean spec.value.toList) :
    ∀ m selector, ∀ b ∈ spec.rule.output m selector, b.IsSealed := by
  intro m selector b hb
  simp only [rule, output] at hb
  split at hb
  · next value hexpand =>
    apply RuleBlock.sealed_of_declarations _ b hb
    exact OrderedMap.forall_singleton ⟨hproperty, Template.isClean_expand hvalue hexpand⟩
  · exact absurd hb List.not_mem_nil

end UtilityCss
