import UtilityCss.Proofs.Rule.Extension
import UtilityCss.Proofs.Rule.Family

/-! The built-in rules are in order: there is room for their patterns. No two of them are after one
token, so a token of a family goes to that family. -/
namespace UtilityCss

open Rule

theorem Rule.suffixSet_eq :
    suffixSet = ⟨[(45, 45), (48, 57), (65, 90), (95, 95), (97, 122)]⟩ := by
  cbv

namespace BuiltIn

theorem exists_compile_layout {limit : Option Nat} {r : Rule} (hr : r ∈ layouts) :
    ∃ c, r.compile limit = .ok c := by
  simp only [layouts, List.mem_cons, List.not_mem_nil, or_false] at hr
  rcases hr with rfl | rfl | rfl | rfl | rfl | rfl | rfl | rfl | rfl <;> exact ⟨_, rfl⟩

theorem exists_compile_family {r : Rule} (hr : r ∈ families) :
    ∃ c, r.compile (some Regex.sizeLimit) = .ok c := by
  obtain ⟨name, hname, rfl⟩ := List.mem_map.1 hr
  have hroom : ∀ stem ∈ ["flow-space", "region-space", "gutter"], ∀ backward,
      (familyExpr stem.toList).anchored.size backward ≤ Regex.sizeLimit := by
    simp only [familyExpr, suffixExpr, suffixSet_eq]
    decide
  have hlimit : ∃ regex, Regex.ofExpr (some Regex.sizeLimit)
      (familyExpr name.toList).anchored = .ok regex := by
    have hfalse := hroom name hname false
    have htrue := hroom name hname true
    exact ⟨_, if_neg (by simp; omega)⟩
  obtain ⟨regex, hregex⟩ := hlimit
  exact exists_compile_variableFamily hregex

theorem exists_compile {r : Rule} (hr : r ∈ rules) :
    ∃ c, r.compile (some Regex.sizeLimit) = .ok c := by
  obtain hlayout | hfamily := List.mem_append.1 hr
  · exact exists_compile_layout hlayout
  · exact exists_compile_family hfamily

variable {limit : Option Nat} {c : CompiledRule} {token : String}

theorem matcher_of_layout {r : Rule} (hr : r ∈ layouts) : r.matcher = .exact r.name := by
  simp only [layouts, List.mem_cons, List.not_mem_nil, or_false] at hr
  rcases hr with rfl | rfl | rfl | rfl | rfl | rfl | rfl | rfl | rfl <;> rfl

theorem isSome_accept_layout {r : Rule} (hr : r ∈ layouts) (h : r.compile limit = .ok c) :
    (c.matcher.accept token).isSome ↔ token = r.name := by
  rw [Rule.compile_exact (matcher_of_layout hr) h, CompiledMatcher.accept]
  split
  · next hsame => simp [hsame]
  · next hother => simp [Ne.symm hother]

theorem isSome_accept_family {name : String} (h : (spacingFamily name).compile limit = .ok c) :
    (c.matcher.accept token).isSome ↔
      ∃ suffix, Css.Identifier.isFragment suffix ∧ token = name ++ "-" ++ suffix := by
  simp only [Option.isSome_iff_exists, accept_variableFamily h]
  constructor
  · rintro ⟨_, suffix, hfragment, htoken, -⟩
    exact ⟨suffix, hfragment, htoken⟩
  · rintro ⟨suffix, hfragment, htoken⟩
    exact ⟨_, suffix, hfragment, htoken, rfl⟩

theorem dispatch_layout {table : RuleTable} (h : RuleTable.ofRules limit rules = .ok table)
    {front back : List Rule} {r : Rule} (hsplit : layouts = front ++ r :: back) :
    table.dispatch r.name = some ⟨front.length,
      (r.output ⟨r.name, []⟩ (Css.Identifier.classSelector r.name)).fragments
        (Css.Identifier.classSelector r.name) r.layer⟩ := by
  have hrules : rules = front ++ r :: (back ++ families) := by
    rw [rules, hsplit, List.append_assoc, List.cons_append]
  have hr : r ∈ layouts := hsplit ▸ List.mem_append_right front (List.mem_cons_self ..)
  rw [hrules] at h
  apply RuleTable.dispatch_of_front h
  · intro f hf c hc
    have hlayout : f ∈ layouts := hsplit ▸ List.mem_append_left _ hf
    rw [← Option.not_isSome_iff_eq_none, isSome_accept_layout hlayout hc]
    intro hname
    have hnodup : (layouts.map Rule.name).Nodup := by decide
    rw [hsplit, List.map_append, List.map_cons, List.nodup_middle] at hnodup
    have hmem : r.name ∈ front.map Rule.name := hname ▸ List.mem_map_of_mem hf
    exact (List.nodup_cons.1 hnodup).1 (List.mem_append_left _ hmem)
  · intro c hc
    obtain ⟨-, hlayer, houtput, -⟩ := compile_eq_ok hc
    rw [CompiledRule.fragments?, compile_exact (matcher_of_layout hr) hc, CompiledMatcher.accept,
      if_pos rfl, hlayer, houtput]
    rfl

def stems : List String := ["flow-space", "region-space", "gutter"]

theorem layout_name_ne {r : Rule} (hr : r ∈ layouts) {stem : String} (hstem : stem ∈ stems)
    (suffix : String) : stem ++ "-" ++ suffix ≠ r.name := by
  have hall : ∀ stem ∈ stems, ∀ r ∈ layouts, ¬ (stem ++ "-").toList <+: r.name.toList := by decide
  intro hname
  apply hall stem hstem r hr
  rw [← hname]
  exact ⟨suffix.toList, String.toList_append.symm⟩

theorem stem_inj {stem other : String} (hstem : stem ∈ stems) (hother : other ∈ stems)
    {suffix rest : String} (h : stem ++ "-" ++ suffix = other ++ "-" ++ rest) : stem = other := by
  have hall : ∀ stem ∈ stems, ∀ other ∈ stems,
      stem.toList.head? = other.toList.head? → stem = other := by decide
  have hhead : ∀ stem ∈ stems, ∀ text : String,
      (stem ++ "-" ++ text).toList.head? = stem.toList.head? := by
    intro stem hstem text
    have hne : ∀ stem ∈ stems, stem.toList ≠ [] := by decide
    rw [String.append_assoc, String.toList_append, List.head?_append_of_ne_nil _ (hne stem hstem)]
  apply hall stem hstem other hother
  rw [← hhead stem hstem suffix, h, hhead other hother rest]

theorem dispatch_family {table : RuleTable} (h : RuleTable.ofRules limit rules = .ok table)
    {stem : String} (hstem : stem ∈ stems) {suffix : String}
    (hfragment : Css.Identifier.isFragment suffix) :
    ∃ i, (table.listing.map RuleInfo.name)[i]? = some stem ∧
      table.dispatch (stem ++ "-" ++ suffix) = some ⟨i,
        [familyFragment ("--" ++ stem) "space" (stem ++ "-" ++ suffix) suffix]⟩ := by
  obtain ⟨before, after, hsplit⟩ := List.append_of_mem hstem
  have hbefore : stem ∉ before := by
    have hnodup : stems.Nodup := by decide
    rw [hsplit, List.nodup_middle] at hnodup
    exact fun hmem => (List.nodup_cons.1 hnodup).1 (List.mem_append_left _ hmem)
  have hrules : rules = (layouts ++ before.map spacingFamily) ++
      spacingFamily stem :: after.map spacingFamily := by
    change layouts ++ stems.map spacingFamily = _
    rw [hsplit, List.map_append, List.map_cons, List.append_assoc]
  refine ⟨(layouts ++ before.map spacingFamily).length, ?_, ?_⟩
  · rw [RuleTable.names_ofRules h, hrules, List.getElem?_map, List.getElem?_append_right (by simp)]
    simp [spacingFamily, variableFamily]
  · rw [hrules] at h
    apply RuleTable.dispatch_of_front h
    · intro r hr c hc
      rw [← Option.not_isSome_iff_eq_none]
      intro haccept
      obtain hlayout | hfamily := List.mem_append.1 hr
      · exact layout_name_ne hlayout hstem suffix ((isSome_accept_layout hlayout hc).1 haccept)
      · obtain ⟨other, hother, rfl⟩ := List.mem_map.1 hfamily
        obtain ⟨rest, -, htoken⟩ := (isSome_accept_family hc).1 haccept
        have hmem : other ∈ stems := hsplit ▸ List.mem_append_left _ hother
        exact hbefore (stem_inj hstem hmem htoken ▸ hother)
    · intro c hc
      exact (fragments?_variableFamily hc).2 ⟨suffix, hfragment, rfl, rfl⟩

end BuiltIn

end UtilityCss
