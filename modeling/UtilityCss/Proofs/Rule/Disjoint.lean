import Mathlib.Data.List.Perm.Basic
import UtilityCss.Proofs.Rule.BuiltIn

/-!
Tables whose rules keep apart. Where no two rules accept one token, their order decides only about
places, not about what a token gives. The built-in rules are such a table, and what it accepts is a
language in the open.
-/
namespace UtilityCss

open Css (Fragment)

namespace RuleTable

variable {limit : Option Nat} {table other : RuleTable} {rules others : List Rule} {token : String}
  {fragments : List Fragment}

/-- No token is accepted at two places. -/
def IsDisjoint (table : RuleTable) : Prop :=
  table.rules.Pairwise fun a b =>
    ∀ token, ¬ ((a.matcher.accept token).isSome ∧ (b.matcher.accept token).isSome)

theorem IsDisjoint.countP_le_one (h : table.IsDisjoint) (token : String) :
    table.rules.countP (fun c => (c.matcher.accept token).isSome) ≤ 1 := by
  unfold IsDisjoint at h
  generalize table.rules = rules at h ⊢
  induction h with
  | nil => exact Nat.zero_le 1
  | @cons c rest hc _ ih =>
    rw [List.countP_cons]
    split
    · next haccept =>
      have hrest : rest.countP (fun c => (c.matcher.accept token).isSome) = 0 :=
        List.countP_eq_zero.2 fun b hb hsome => hc b hb token ⟨haccept, hsome⟩
      rw [hrest]
    · exact ih

/-- If no rule stands in the way of another, each decides about its tokens. -/
theorem dispatch_of_isDisjoint (h : table.IsDisjoint) :
    (table.dispatch token).map Dispatch.fragments = some fragments ↔
      ∃ c ∈ table.rules, c.fragments? token = some fragments := by
  constructor
  · intro hdispatch
    obtain ⟨d, hd, rfl⟩ := Option.map_eq_some_iff.1 hdispatch
    exact exists_rule_of_dispatchFrom hd
  · rintro ⟨c, hc, hfragments⟩
    obtain ⟨front, back, hrules⟩ := List.append_of_mem hc
    have haccept : (c.matcher.accept token).isSome := by
      rw [← isSome_fragments?, hfragments]
      rfl
    have hfront : ∀ f ∈ front, f.matcher.accept token = none := by
      intro f hf
      rw [IsDisjoint, hrules] at h
      have hapart := (List.pairwise_append.1 h).2.2 f hf c List.mem_cons_self token
      rw [← Option.not_isSome_iff_eq_none]
      exact fun hsome => hapart ⟨hsome, haccept⟩
    rw [dispatch, hrules, dispatchFrom_append, dispatchFrom_eq_none_iff.2 hfront, Option.none_or,
      dispatchFrom, hfragments]
    rfl

theorem dispatch_perm (h : table.IsDisjoint) (hperm : other.rules.Perm table.rules)
    (token : String) :
    (other.dispatch token).map Dispatch.fragments =
      (table.dispatch token).map Dispatch.fragments := by
  have hother : other.IsDisjoint := by
    apply (hperm.pairwise_iff _).2 h
    intro a b hab token hboth
    exact hab token hboth.symm
  apply Option.ext
  intro fragments
  rw [dispatch_of_isDisjoint h, dispatch_of_isDisjoint hother]
  simp only [hperm.mem_iff]

theorem ofRules_perm (h : ofRules limit rules = .ok table) (hperm : others.Perm rules) :
    ∃ other, ofRules limit others = .ok other ∧ other.rules.Perm table.rules := by
  obtain ⟨reordered, hreordered, hsame⟩ := List.perm_comp_forall₂ hperm (ofRules_eq_ok_iff.1 h)
  exact ⟨⟨reordered⟩, ofRules_eq_ok_iff.2 hreordered, hsame⟩

theorem isSome_dispatch_iff (h : ofRules limit rules = .ok table) :
    (table.dispatch token).isSome ↔
      ∃ r ∈ rules, ∃ c, r.compile limit = .ok c ∧ (c.matcher.accept token).isSome := by
  constructor
  · intro hsome
    obtain ⟨d, hd⟩ := Option.isSome_iff_exists.1 hsome
    obtain ⟨c, hc, hfragments⟩ := exists_rule_of_dispatchFrom hd
    obtain ⟨r, hr, hcompile⟩ := (mem_ofRules h).1 hc
    refine ⟨r, hr, c, hcompile, ?_⟩
    rw [← isSome_fragments?, hfragments]
    rfl
  · rintro ⟨r, hr, c, hcompile, haccept⟩
    rw [Option.isSome_iff_ne_none]
    intro hnone
    have hc : c ∈ table.rules := (mem_ofRules h).2 ⟨r, hr, hcompile⟩
    rw [dispatchFrom_eq_none_iff.1 hnone c hc] at haccept
    nomatch haccept

end RuleTable

namespace BuiltIn

def Apart (a b : Rule) : Prop :=
  ∀ limit c d, a.compile limit = .ok c → b.compile limit = .ok d → ∀ token,
    ¬ ((c.matcher.accept token).isSome ∧ (d.matcher.accept token).isSome)

theorem pairwise_layouts : layouts.Pairwise Apart := by
  have hnames : layouts.Pairwise fun a b => a.name ≠ b.name := by
    rw [← List.pairwise_map]
    decide
  apply hnames.imp_of_mem
  intro a b ha hb hne limit c d hc hd token haccept
  apply hne
  rw [← (isSome_accept_layout ha hc).1 haccept.1, ← (isSome_accept_layout hb hd).1 haccept.2]

theorem pairwise_families : families.Pairwise Apart := by
  have hstems : stems.Pairwise (· ≠ ·) := by decide
  apply List.pairwise_map.2
  apply hstems.imp_of_mem
  intro stem other hstem hother hne limit c d hc hd token haccept
  obtain ⟨suffix, -, htoken⟩ := (isSome_accept_family hc).1 haccept.1
  obtain ⟨rest, -, hsame⟩ := (isSome_accept_family hd).1 haccept.2
  exact hne (stem_inj hstem hother (htoken.symm.trans hsame))

theorem pairwise_rules : rules.Pairwise Apart := by
  refine List.pairwise_append.2 ⟨pairwise_layouts, pairwise_families, ?_⟩
  intro r hr f hf limit c d hc hd token haccept
  obtain ⟨stem, hstem, rfl⟩ := List.mem_map.1 hf
  obtain ⟨suffix, -, htoken⟩ := (isSome_accept_family hd).1 haccept.2
  exact layout_name_ne hr hstem suffix (htoken.symm.trans ((isSome_accept_layout hr hc).1 haccept.1))

variable {limit : Option Nat} {table : RuleTable}

theorem isDisjoint_ofRules (h : RuleTable.ofRules limit rules = .ok table) :
    table.IsDisjoint := by
  have hrules := RuleTable.ofRules_eq_ok_iff.1 h
  rw [RuleTable.IsDisjoint, List.pairwise_iff_getElem]
  intro i j hi hj hlt
  have hi' : i < rules.length := hrules.length_eq.symm ▸ hi
  have hj' : j < rules.length := hrules.length_eq.symm ▸ hj
  have hapart : Apart rules[i] rules[j] := List.pairwise_iff_getElem.1 pairwise_rules i j hi' hj' hlt
  exact hapart limit _ _ (hrules.get hi' hi) (hrules.get hj' hj)

/-- What the built-in rules accept. -/
def Accepts (token : String) : Prop :=
  token ∈ ["flow", "cluster", "wrapper", "region", "visually-hidden", "switcher", "sidebar",
      "repel", "grid"] ∨
    ∃ stem ∈ ["flow-space", "region-space", "gutter"], ∃ suffix,
      Css.Identifier.isFragment suffix ∧ token = stem ++ "-" ++ suffix

theorem isSome_dispatch (h : RuleTable.ofRules limit rules = .ok table) (token : String) :
    (table.dispatch token).isSome ↔ Accepts token := by
  have hnames : token ∈ ["flow", "cluster", "wrapper", "region", "visually-hidden", "switcher",
      "sidebar", "repel", "grid"] ↔ ∃ r ∈ layouts, token = r.name := by
    change token ∈ layouts.map Rule.name ↔ _
    simp only [List.mem_map, eq_comm]
  rw [RuleTable.isSome_dispatch_iff h, Accepts, hnames]
  constructor
  · rintro ⟨r, hr, c, hc, haccept⟩
    obtain hlayout | hfamily := List.mem_append.1 hr
    · exact .inl ⟨r, hlayout, (isSome_accept_layout hlayout hc).1 haccept⟩
    · obtain ⟨stem, hstem, rfl⟩ := List.mem_map.1 hfamily
      exact .inr ⟨stem, hstem, (isSome_accept_family hc).1 haccept⟩
  · rintro (⟨r, hr, hname⟩ | ⟨stem, hstem, hsuffix⟩)
    · have hmem : r ∈ rules := List.mem_append_left _ hr
      obtain ⟨c, hc⟩ := RuleTable.exists_ofRules_iff.1 ⟨table, h⟩ _ hmem
      exact ⟨r, hmem, c, hc, (isSome_accept_layout hr hc).2 hname⟩
    · have hmem : spacingFamily stem ∈ rules :=
        List.mem_append_right _ (List.mem_map_of_mem hstem)
      obtain ⟨c, hc⟩ := RuleTable.exists_ofRules_iff.1 ⟨table, h⟩ _ hmem
      exact ⟨_, hmem, c, hc, (isSome_accept_family hc).2 hsuffix⟩

/-- The built-in rules accept the names of the layouts and the classes of the families, and nothing
else. No token is accepted twice, so in whatever order the rules stand, a token gives the same. -/
theorem rules_disjoint :
    ∃ table, RuleTable.ofRules (some Regex.sizeLimit) rules = .ok table ∧ table.size = 12 ∧
      (∀ token, (table.dispatch token).isSome ↔ Accepts token) ∧
      (∀ token, table.rules.countP (fun c => (c.matcher.accept token).isSome) ≤ 1) ∧
      ∀ others, others.Perm rules →
        ∃ other, RuleTable.ofRules (some Regex.sizeLimit) others = .ok other ∧
          ∀ token, (other.dispatch token).map Dispatch.fragments =
            (table.dispatch token).map Dispatch.fragments := by
  obtain ⟨table, htable⟩ : ∃ table, RuleTable.ofRules (some Regex.sizeLimit) rules = .ok table :=
    RuleTable.exists_ofRules_iff.2 fun r hr => exists_compile hr
  have hdisjoint := isDisjoint_ofRules htable
  refine ⟨table, htable, RuleTable.size_ofRules htable, isSome_dispatch htable,
    hdisjoint.countP_le_one, ?_⟩
  intro others hperm
  obtain ⟨other, hother, hsame⟩ := RuleTable.ofRules_perm htable hperm
  exact ⟨other, hother, RuleTable.dispatch_perm hdisjoint hsame⟩

/-- With the families in front, a suffix that is the name of a layout still belongs to its family. -/
theorem rules_disjoint_reverse :
    ∃ other, RuleTable.ofRules (some Regex.sizeLimit) rules.reverse = .ok other ∧
      (other.dispatch "flow-space-flow").map Dispatch.fragments =
        some [⟨".flow-space-flow", .components,
          .singleton "--flow-space" "var(--space-flow)"⟩] := by
  obtain ⟨table, htable, -, -, -, hperm⟩ := rules_disjoint
  obtain ⟨other, hother, hsame⟩ := hperm rules.reverse (List.reverse_perm rules)
  have hstem : "flow-space" ∈ stems := by decide
  have hfragment : Css.Identifier.isFragment "flow" := by decide
  obtain ⟨i, -, hdispatch⟩ := dispatch_family htable hstem hfragment
  refine ⟨other, hother, ?_⟩
  have htoken : "flow-space-flow" = "flow-space" ++ "-" ++ "flow" := rfl
  rw [hsame, htoken, hdispatch]
  change some [Rule.familyFragment "--flow-space" "space" "flow-space-flow" "flow"] = _
  decide

end BuiltIn

end UtilityCss
