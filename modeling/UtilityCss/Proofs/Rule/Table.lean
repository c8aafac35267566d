import UtilityCss.Proofs.Except
import UtilityCss.Rule.Table

/-!
What rules are compiled to, one by one and in a table, where they stand side by side with those that
the table was made from.
-/
namespace UtilityCss

namespace Rule

theorem compile_eq_ok {limit : Option Nat} {r : Rule} {c : CompiledRule}
    (h : r.compile limit = .ok c) :
    c.name = r.name ∧ c.layer = r.layer ∧ c.output = r.output ∧
      ((∃ literal, r.matcher = .exact literal ∧ c.matcher = .exact literal) ∨
        ∃ pattern arity regex, r.matcher = .pattern pattern arity ∧
          Regex.ofText limit (anchored pattern).toList = .ok regex ∧ arity ≤ regex.groupCount ∧
            c.matcher = .pattern (anchored pattern) regex) := by
  unfold compile at h
  split at h
  · next literal hmatcher =>
    split at h
    · nomatch h
    · obtain rfl := Except.ok.inj h
      exact ⟨rfl, rfl, rfl, .inl ⟨literal, hmatcher, rfl⟩⟩
  · next pattern arity hmatcher =>
    split at h
    · nomatch h
    split at h
    · nomatch h
    · next regex hregex =>
      split at h
      · nomatch h
      · next harity =>
        obtain rfl := Except.ok.inj h
        exact ⟨rfl, rfl, rfl, .inr ⟨pattern, arity, regex, hmatcher, hregex,
          Nat.le_of_not_lt harity, rfl⟩⟩

theorem compile_exact {limit : Option Nat} {r : Rule} {c : CompiledRule} {literal : String}
    (hmatcher : r.matcher = .exact literal) (h : r.compile limit = .ok c) :
    c.matcher = .exact literal := by
  obtain ⟨-, -, -, ⟨text, hexact, hc⟩ | ⟨_, _, _, hpattern, -⟩⟩ := compile_eq_ok h
  · rw [hc, Matcher.exact.inj (hexact.symm.trans hmatcher)]
  · nomatch hmatcher.symm.trans hpattern

end Rule

namespace RuleTable

variable {limit : Option Nat} {table extended : RuleTable} {rules : List Rule}

theorem ofRules_eq_ok_iff :
    ofRules limit rules = .ok table ↔
      List.Forall₂ (fun r c => r.compile limit = .ok c) rules table.rules := by
  rw [← mapM_eq_ok_iff, ofRules, bind_eq_ok]
  constructor
  · rintro ⟨compiled, hcompiled, htable⟩
    obtain rfl := Except.ok.inj htable
    exact hcompiled
  · exact fun h => ⟨table.rules, h, rfl⟩

theorem exists_ofRules_iff :
    (∃ table, ofRules limit rules = .ok table) ↔ ∀ r ∈ rules, ∃ c, r.compile limit = .ok c := by
  rw [← exists_mapM_iff]
  constructor
  · rintro ⟨table, h⟩
    exact ⟨table.rules, mapM_eq_ok_iff.2 (ofRules_eq_ok_iff.1 h)⟩
  · rintro ⟨compiled, h⟩
    exact ⟨⟨compiled⟩, ofRules_eq_ok_iff.2 (mapM_eq_ok_iff.1 h)⟩

theorem ofRules_eq_error_iff {e : RuleError} :
    ofRules limit rules = .error e ↔
      ∃ front r back, rules = front ++ r :: back ∧ (∀ f ∈ front, ∃ c, f.compile limit = .ok c) ∧
        r.compile limit = .error e := by
  rw [← mapM_eq_error_iff, ofRules, bind_eq_error]
  constructor
  · rintro (h | ⟨compiled, -, hok⟩)
    · exact h
    · nomatch hok
  · exact .inl

theorem mem_ofRules (h : ofRules limit rules = .ok table) {c : CompiledRule} :
    c ∈ table.rules ↔ ∃ r ∈ rules, r.compile limit = .ok c := by
  have hrules := ofRules_eq_ok_iff.1 h
  constructor
  · intro hc
    obtain ⟨i, hi, rfl⟩ := List.getElem_of_mem hc
    have hi' : i < rules.length := hrules.length_eq.symm ▸ hi
    exact ⟨rules[i], List.getElem_mem hi', hrules.get hi' hi⟩
  · rintro ⟨r, hr, hcompile⟩
    obtain ⟨i, hi, rfl⟩ := List.getElem_of_mem hr
    have hi' : i < table.rules.length := hrules.length_eq ▸ hi
    obtain rfl : table.rules[i] = c := Except.ok.inj ((hrules.get hi hi').symm.trans hcompile)
    exact List.getElem_mem hi'

theorem extend_cons (table : RuleTable) (r : Rule) (rest : List Rule) :
    table.extend limit (r :: rest) =
      r.compile limit >>= fun c => extend limit ⟨table.rules ++ [c]⟩ rest := by
  unfold extend
  simp only [List.forIn_cons]
  cases r.compile limit with
  | error e => rfl
  | ok c => rfl

/-- What the loop pushes is what would be collected. -/
theorem extend_eq_append (table : RuleTable) (rules : List Rule) :
    table.extend limit rules =
      ofRules limit rules >>= fun added => return ⟨table.rules ++ added.rules⟩ := by
  induction rules generalizing table with
  | nil => simp [extend, ofRules, pure, Except.pure, bind, Except.bind]
  | cons r rest ih =>
    rw [extend_cons, ofRules, List.mapM_cons]
    cases r.compile limit with
    | error e => rfl
    | ok c =>
      rw [ok_bind, ih, ofRules]
      cases rest.mapM (Rule.compile limit) with
      | error e => rfl
      | ok cs => simp [bind, Except.bind, pure, Except.pure]

theorem ofRules_eq_extend_empty (limit : Option Nat) (rules : List Rule) :
    ofRules limit rules = empty.extend limit rules := by
  rw [extend_eq_append]
  cases ofRules limit rules with
  | error e => rfl
  | ok added => rfl

theorem extend_eq_ok (h : table.extend limit rules = .ok extended) :
    ∃ compiled, extended.rules = table.rules ++ compiled ∧
      List.Forall₂ (fun r c => r.compile limit = .ok c) rules compiled := by
  rw [extend_eq_append] at h
  obtain ⟨added, hadded, hextended⟩ := bind_eq_ok.1 h
  obtain rfl := Except.ok.inj hextended
  exact ⟨added.rules, rfl, ofRules_eq_ok_iff.1 hadded⟩

theorem extend_rule (h : table.extend limit rules = .ok extended) {i : Nat} {r : Rule}
    (hi : rules[i]? = some r) :
    ∃ c, extended.rules[table.size + i]? = some c ∧ r.compile limit = .ok c := by
  obtain ⟨compiled, hcompiled, hrules⟩ := extend_eq_ok h
  obtain ⟨hlt, rfl⟩ := List.getElem?_eq_some_iff.1 hi
  have hlt' : i < compiled.length := hrules.length_eq ▸ hlt
  refine ⟨compiled[i], ?_, hrules.get hlt hlt'⟩
  rw [hcompiled, size, List.getElem?_append_right (Nat.le_add_right _ _), Nat.add_sub_cancel_left,
    List.getElem?_eq_getElem hlt']

theorem exists_compile_of_extend (h : table.extend limit rules = .ok extended) {r : Rule}
    (hr : r ∈ rules) : ∃ c, r.compile limit = .ok c := by
  obtain ⟨i, hi⟩ := List.mem_iff_getElem?.1 hr
  obtain ⟨c, -, hcompile⟩ := extend_rule h hi
  exact ⟨c, hcompile⟩

theorem extend_error {front back : List Rule} {r : Rule} {e : RuleError}
    (hfront : ∀ f ∈ front, ∃ c, f.compile limit = .ok c) (h : r.compile limit = .error e) :
    table.extend limit (front ++ r :: back) = .error e := by
  rw [extend_eq_append, ofRules_eq_error_iff.2 ⟨front, r, back, rfl, hfront, h⟩]
  rfl

end RuleTable

end UtilityCss
