import UtilityCss.Proofs.Rule.Table

/-!
Tables made in pieces. Rules that are put behind a table later are in it as if they had been there
from the start, and the earlier ones keep their precedence: they decide about all tokens that they
accept, even about those for which they have nothing to give.
-/
namespace UtilityCss.RuleTable

open Css (Fragment)

variable {limit : Option Nat} {table : RuleTable} {rules : List Rule} {token : String}

theorem ofRules_append_eq_bind (front back : List Rule) :
    ofRules limit (front ++ back) =
      ofRules limit front >>= fun table => table.extend limit back := by
  simp only [extend_eq_append, ofRules, List.mapM_append]
  cases front.mapM (Rule.compile limit) with
  | error e => rfl
  | ok first =>
    cases back.mapM (Rule.compile limit) with
    | error e => rfl
    | ok second => simp [bind, Except.bind, pure, Except.pure]

theorem size_ofRules (h : ofRules limit rules = .ok table) : table.size = rules.length := by
  rw [size, (ofRules_eq_ok_iff.1 h).length_eq]

theorem names_ofRules (h : ofRules limit rules = .ok table) :
    table.listing.map RuleInfo.name = rules.map Rule.name := by
  have hlisting : table.listing.map RuleInfo.name = table.rules.map CompiledRule.name := by
    rw [listing, List.map_map]
    rfl
  have hrules := ofRules_eq_ok_iff.1 h
  rw [hlisting]
  clear hlisting h
  generalize table.rules = compiled at hrules
  induction hrules with
  | nil => rfl
  | cons hcompile _ ih => rw [List.map_cons, List.map_cons, (Rule.compile_eq_ok hcompile).1, ih]

theorem ofRules_append_eq_ok {a b : List Rule} (h : ofRules limit (a ++ b) = .ok table) :
    ∃ first second, ofRules limit a = .ok first ∧ ofRules limit b = .ok second ∧
      table.rules = first.rules ++ second.rules := by
  rw [ofRules_append_eq_bind] at h
  obtain ⟨first, hfirst, hrest⟩ := bind_eq_ok.1 h
  rw [extend_eq_append] at hrest
  obtain ⟨second, hsecond, htable⟩ := bind_eq_ok.1 hrest
  obtain rfl := Except.ok.inj htable
  exact ⟨first, second, hfirst, hsecond, rfl⟩

/-- The holder of a table puts the rules behind a copy of it one by one, up to the first that is in
error. -/
def pushOntoCopy (limit : Option Nat) (rules : List Rule) :
    ExceptT RuleError (StateM RuleTable) RuleTable := do
  let mut copy ← get
  for r in rules do
    copy := ⟨copy.rules ++ [← MonadExcept.ofExcept (r.compile limit)]⟩
  return copy

def pushAll (limit : Option Nat) (copy : RuleTable) (rules : List Rule) :
    ExceptT RuleError (StateM RuleTable) RuleTable :=
  rules.foldlM (fun copy r => do
    return ⟨copy.rules ++ [← MonadExcept.ofExcept (r.compile limit)]⟩) copy

theorem run_pushAll (held copy : RuleTable) :
    (pushAll limit copy rules).run.run held = (copy.extend limit rules, held) := by
  induction rules generalizing copy with
  | nil => rfl
  | cons r rest ih =>
    rw [pushAll, List.foldlM_cons, extend_cons]
    cases r.compile limit with
    | error e => rfl
    | ok c => exact ih ⟨copy.rules ++ [c]⟩

/-- Rules pushed one by one make the table that `extend` makes of them together, and whether that
succeeds or not, the table that is held remains what it is. -/
theorem run_pushOntoCopy (held : RuleTable) :
    (pushOntoCopy limit rules).run.run held = (held.extend limit rules, held) := by
  have hpush : pushOntoCopy limit rules = (do pushAll limit (← get) rules) := by
    unfold pushOntoCopy pushAll
    simp
  rw [hpush]
  exact run_pushAll held held

theorem dispatchFrom_append (token : String) (start : Nat) (front back : List CompiledRule) :
    dispatchFrom token start (front ++ back) =
      (dispatchFrom token start front).or (dispatchFrom token (start + front.length) back) := by
  induction front generalizing start with
  | nil => rfl
  | cons c rest ih =>
    simp only [List.cons_append, dispatchFrom, List.length_cons]
    cases c.fragments? token with
    | some fragments => rfl
    | none => rw [ih, Nat.add_assoc, Nat.add_comm 1]

theorem dispatchFrom_add (token : String) (start n : Nat) (rules : List CompiledRule) :
    dispatchFrom token (start + n) rules =
      (dispatchFrom token start rules).map fun d => ⟨d.rule + n, d.fragments⟩ := by
  induction rules generalizing start with
  | nil => rfl
  | cons c rest ih =>
    simp only [dispatchFrom]
    cases c.fragments? token with
    | some fragments => rfl
    | none => rw [Nat.add_right_comm, ih]

theorem dispatchFrom_eq_none_iff {start : Nat} {rules : List CompiledRule} :
    dispatchFrom token start rules = none ↔ ∀ c ∈ rules, c.matcher.accept token = none := by
  induction rules generalizing start with
  | nil => simp [dispatchFrom]
  | cons c rest ih =>
    rw [dispatchFrom, List.forall_mem_cons, ← @ih (start + 1)]
    cases hc : c.matcher.accept token with
    | some m => simp [CompiledRule.fragments?, hc]
    | none => simp [CompiledRule.fragments?, hc]

theorem isSome_fragments? (r : CompiledRule) (token : String) :
    (r.fragments? token).isSome = (r.matcher.accept token).isSome := by
  simp [CompiledRule.fragments?]

theorem exists_rule_of_dispatchFrom {start : Nat} {rules : List CompiledRule} {d : Dispatch}
    (h : dispatchFrom token start rules = some d) :
    ∃ c ∈ rules, c.fragments? token = some d.fragments := by
  induction rules generalizing start with
  | nil => nomatch h
  | cons c rest ih =>
    rw [dispatchFrom] at h
    split at h
    · next fragments hfragments =>
      obtain rfl := Option.some.inj h
      exact ⟨c, List.mem_cons_self, hfragments⟩
    · obtain ⟨c', hc', hfragments⟩ := ih h
      exact ⟨c', List.mem_cons_of_mem _ hc', hfragments⟩

theorem dispatch_of_rules_append {first second : RuleTable}
    (h : table.rules = first.rules ++ second.rules) (token : String) :
    table.dispatch token = (first.dispatch token).or
      ((second.dispatch token).map fun d => ⟨d.rule + first.size, d.fragments⟩) := by
  rw [dispatch, h, dispatchFrom_append, dispatchFrom_add]
  rfl

theorem dispatch_of_front {front back : List Rule} {r : Rule} {fragments : List Fragment}
    (h : ofRules limit (front ++ r :: back) = .ok table)
    (hfront : ∀ f ∈ front, ∀ c, f.compile limit = .ok c → c.matcher.accept token = none)
    (hr : ∀ c, r.compile limit = .ok c → c.fragments? token = some fragments) :
    table.dispatch token = some ⟨front.length, fragments⟩ := by
  obtain ⟨first, second, hfirst, hsecond, hrules⟩ := ofRules_append_eq_ok h
  have hnone : first.dispatch token = none := by
    rw [dispatch, dispatchFrom_eq_none_iff]
    intro c hc
    obtain ⟨f, hf, hcompile⟩ := (mem_ofRules hfirst).1 hc
    exact hfront f hf c hcompile
  obtain ⟨c, rest, hcompile, -, hsecondRules⟩ :=
    List.forall₂_cons_left_iff.1 (ofRules_eq_ok_iff.1 hsecond)
  have hsome : second.dispatch token = some ⟨0, fragments⟩ := by
    rw [dispatch, hsecondRules, dispatchFrom, hr c hcompile]
  rw [dispatch_of_rules_append hrules, hnone, hsome, size_ofRules hfirst]
  simp

/-- A table made in two pieces is the table made at once, with the same rule in error if there is
one. A token goes to the first piece if a rule of it accepts the token, be it for nothing, and else
to the second. -/
theorem ofRules_append (limit : Option Nat) (a b : List Rule) :
    ofRules limit (a ++ b) = (ofRules limit a >>= fun table => table.extend limit b) ∧
    (∀ e, ofRules limit (a ++ b) = .error e ↔
      ∃ front r back, a ++ b = front ++ r :: back ∧
        (∀ f ∈ front, ∃ c, f.compile limit = .ok c) ∧ r.compile limit = .error e) ∧
    (∀ table : RuleTable,
      (pushOntoCopy limit b).run.run table = (table.extend limit b, table)) ∧
    ∀ whole, ofRules limit (a ++ b) = .ok whole →
      ∃ first second, ofRules limit a = .ok first ∧ ofRules limit b = .ok second ∧
        whole.listing = first.listing ++ second.listing ∧
        ∀ token,
          ((∃ c ∈ first.rules, (c.matcher.accept token).isSome) →
            (first.dispatch token).isSome ∧ whole.dispatch token = first.dispatch token) ∧
          ((∀ c ∈ first.rules, c.matcher.accept token = none) →
            whole.dispatch token =
              (second.dispatch token).map fun d => ⟨d.rule + a.length, d.fragments⟩) := by
  refine ⟨ofRules_append_eq_bind a b, fun _ => ofRules_eq_error_iff, run_pushOntoCopy, ?_⟩
  intro whole hwhole
  obtain ⟨first, second, hfirst, hsecond, hrules⟩ := ofRules_append_eq_ok hwhole
  refine ⟨first, second, hfirst, hsecond, by simp [listing, hrules], ?_⟩
  intro token
  have hdispatch := dispatch_of_rules_append hrules token
  rw [hdispatch, ← size_ofRules hfirst]
  constructor
  · rintro ⟨c, hc, haccept⟩
    have hsome : (first.dispatch token).isSome := by
      rw [Option.isSome_iff_ne_none]
      intro hnone
      rw [dispatchFrom_eq_none_iff.1 hnone c hc] at haccept
      nomatch haccept
    obtain ⟨d, hd⟩ := Option.isSome_iff_exists.1 hsome
    rw [hd]
    exact ⟨rfl, rfl⟩
  · intro hnone
    have hfirstNone : first.dispatch token = none := dispatchFrom_eq_none_iff.2 hnone
    rw [hfirstNone, Option.none_or]

/-- The first rule has nothing to give for the token that it accepts, and the third, which would
give something, is not asked. -/
theorem ofRules_append_silent :
    let silent : Rule := ⟨"silent", .exact "row", .components, fun _ _ => []⟩
    let loud : Rule := ⟨"loud", .exact "row", .components,
      fun _ _ => .ofDeclarations (.singleton "display" "flex")⟩
    let other : Rule := ⟨"other", .exact "stack", .components,
      fun _ _ => .ofDeclarations (.singleton "display" "grid")⟩
    ∃ first whole, ofRules none [silent] = .ok first ∧
      first.extend none [other, loud] = .ok whole ∧
      whole.dispatch "row" = some ⟨0, []⟩ ∧
      whole.dispatch "stack" =
        some ⟨1, [⟨".stack", .components, .singleton "display" "grid"⟩]⟩ := by
  intro silent loud other
  have hwhole : ofRules none ([silent] ++ [other, loud]) =
      .ok ⟨[⟨"silent", .exact "row", .components, silent.output⟩,
        ⟨"other", .exact "stack", .components, other.output⟩,
        ⟨"loud", .exact "row", .components, loud.output⟩]⟩ := rfl
  obtain ⟨hpieces, -, -, hdispatch⟩ := ofRules_append none [silent] [other, loud]
  obtain ⟨first, second, hfirst, hsecond, -, hdispatch⟩ := hdispatch _ hwhole
  rw [hpieces, hfirst] at hwhole
  obtain rfl : ⟨[⟨"silent", .exact "row", .components, silent.output⟩]⟩ = first :=
    Except.ok.inj hfirst
  obtain rfl : ⟨[⟨"other", .exact "stack", .components, other.output⟩,
      ⟨"loud", .exact "row", .components, loud.output⟩]⟩ = second := Except.ok.inj hsecond
  refine ⟨_, _, hfirst, hwhole, ?_, ?_⟩
  · exact ((hdispatch "row").1 ⟨_, List.mem_singleton_self _, rfl⟩).2
  · exact (hdispatch "stack").2 (List.forall_mem_singleton.2 rfl)

end UtilityCss.RuleTable
