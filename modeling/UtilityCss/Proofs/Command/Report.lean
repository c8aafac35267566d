import Mathlib.Data.List.Basic
import UtilityCss.Command.Run
import UtilityCss.Proofs.Theme.Missing
import UtilityCss.Proofs.Theme.Names

/-!
What a check says about groups, and what that means for a build. The report has a line for each group
that the configuration makes use of; if none of them calls a group missing, the policy about missing
groups does not show in any stylesheet.
-/
namespace UtilityCss

section FirstUse

variable {α : Type} [DecidableEq α] {p : α → Bool} {a b : α}

theorem idxOf_filter_lt_iff (ha : p a) (hb : p b) (l : List α) :
    (l.filter p).idxOf a < (l.filter p).idxOf b ↔ l.idxOf a < l.idxOf b := by
  induction l with
  | nil => exact Iff.rfl
  | cons x rest ih =>
    by_cases hx : p x
    · rw [List.filter_cons_of_pos hx]
      by_cases hxb : x = b
      · simp [hxb]
      by_cases hxa : x = a
      · simp [hxa, List.idxOf_cons_ne, hxa ▸ hxb]
      · rw [List.idxOf_cons_ne _ hxa, List.idxOf_cons_ne _ hxb, List.idxOf_cons_ne _ hxa,
          List.idxOf_cons_ne _ hxb, Nat.succ_lt_succ_iff, Nat.succ_lt_succ_iff, ih]
    · have hne : ∀ c, p c → x ≠ c := fun c hc h => hx (h ▸ hc)
      rw [List.filter_cons_of_neg hx, ih, List.idxOf_cons_ne _ (hne a ha),
        List.idxOf_cons_ne _ (hne b hb), Nat.succ_lt_succ_iff]

theorem pairwise_idxOf_eraseDups (l : List α) :
    l.eraseDups.Pairwise fun a b => l.idxOf a < l.idxOf b := by
  match l with
  | [] => exact .nil
  | x :: rest =>
    have hrest := pairwise_idxOf_eraseDups (rest.filter fun b => !b == x)
    have hnew : ∀ b ∈ (rest.filter fun b => !b == x).eraseDups, b ≠ x := by
      intro b hb
      simpa using (List.mem_filter.1 (List.mem_eraseDups.1 hb)).2
    rw [List.eraseDups_cons]
    refine List.pairwise_cons.2 ⟨?_, hrest.imp_of_mem ?_⟩
    · intro b hb
      rw [List.idxOf_cons_self, List.idxOf_cons_ne _ (hnew b hb).symm]
      exact Nat.succ_pos _
    · intro a b ha hb hlt
      have ha' := hnew a ha
      have hb' := hnew b hb
      rw [idxOf_filter_lt_iff (by simpa using ha') (by simpa using hb')] at hlt
      rw [List.idxOf_cons_ne _ ha'.symm, List.idxOf_cons_ne _ hb'.symm]
      exact Nat.succ_lt_succ hlt
termination_by l.length
decreasing_by exact Nat.lt_succ_of_le (List.length_filter_le _ _)

end FirstUse

namespace Command

open Theme (MissingGroups Registry)

variable {r : Registry} {c : StyleConfig} {group other : String}

def references (c : StyleConfig) : List String :=
  c.customProperties.map Theme.PropertyGroup.group ++ c.utilities.map Theme.UtilityFamily.group

def missingLine (group : String) : String := "group " ++ group ++ ": missing"

theorem exists_groupLine (r : Registry) (group : String) :
    ∃ back, ':' ∉ back ∧ (back = " missing".toList ↔ r.get? group = none) ∧
      (groupLine r group).toList = ("group ".toList ++ group.toList) ++ ':' :: back := by
  rw [groupLine]
  cases hget : r.get? group with
  | none =>
    refine ⟨" missing".toList, by decide, by simp, ?_⟩
    simp
  | some tokens =>
    refine ⟨' ' :: (tokens.size.repr.toList ++ " tokens".toList), ?_, ?_, ?_⟩
    · rw [List.mem_cons, List.mem_append, Nat.toList_repr]
      rintro (hblank | hdigit | htokens)
      · exact absurd hblank (by decide)
      · exact absurd (Nat.isDigit_of_mem_toDigits (by decide) (by decide) hdigit) (by decide)
      · exact absurd htokens (by decide)
    · constructor
      · intro h
        have hlast := congrArg List.getLast? h
        rw [← List.cons_append, List.getLast?_append_of_ne_nil _ (by decide)] at hlast
        exact absurd hlast (by decide)
      · nofun
    · simp [Nat.toString_eq_repr]

theorem append_cons_inj_of_notMem {a : Char} {p q n m : List Char} (hn : a ∉ n) (hm : a ∉ m)
    (h : p ++ a :: n = q ++ a :: m) : p = q ∧ n = m := by
  obtain hsame | ⟨d, -, rfl⟩ | ⟨d, -, rfl⟩ := Theme.append_cons_eq_append_cons_iff.1 h
  · exact hsame
  · exact absurd (List.mem_append_right d List.mem_cons_self) hn
  · exact absurd (List.mem_append_right d List.mem_cons_self) hm

theorem groupLine_injective (r : Registry) : Function.Injective (groupLine r) := by
  intro group other h
  obtain ⟨back, hback, -, hline⟩ := exists_groupLine r group
  obtain ⟨back', hback', -, hline'⟩ := exists_groupLine r other
  rw [h, hline'] at hline
  have hfront := (append_cons_inj_of_notMem hback' hback hline).1
  exact (String.toList_inj.1 (List.append_cancel_left hfront)).symm

theorem groupLine_eq_missingLine_iff :
    groupLine r group = missingLine other ↔ group = other ∧ r.get? group = none := by
  have hmissing : (missingLine other).toList =
      ("group ".toList ++ other.toList) ++ ':' :: " missing".toList := by
    simp [missingLine]
  obtain ⟨back, hback, hnone, hline⟩ := exists_groupLine r group
  rw [← String.toList_inj, hline, hmissing]
  constructor
  · intro h
    obtain ⟨hfront, rfl⟩ := append_cons_inj_of_notMem hback (by decide) h
    exact ⟨String.toList_inj.1 (List.append_cancel_left hfront), hnone.1 rfl⟩
  · rintro ⟨rfl, hget⟩
    rw [hnone.2 hget]

theorem mem_usedGroups : group ∈ usedGroups c ↔ group ∈ references c := List.mem_eraseDups

theorem missingLine_mem_groupReport :
    missingLine group ∈ groupReport c r ↔ group ∈ references c ∧ r.get? group = none := by
  rw [groupReport, List.mem_map]
  constructor
  · rintro ⟨used, hused, hline⟩
    obtain ⟨rfl, hget⟩ := groupLine_eq_missingLine_iff.1 hline
    exact ⟨mem_usedGroups.1 hused, hget⟩
  · rintro ⟨hgroup, hget⟩
    exact ⟨group, mem_usedGroups.2 hgroup, groupLine_eq_missingLine_iff.2 ⟨rfl, hget⟩⟩

end Command

/-- The configuration without the references to groups that the registry lacks. -/
def StyleConfig.withPresent (c : StyleConfig) (r : Theme.Registry) : StyleConfig :=
  { c with
    customProperties := Theme.present r Theme.PropertyGroup.group c.customProperties
    utilities := Theme.present r Theme.UtilityFamily.group c.utilities }

def StyleConfig.withPolicy (c : StyleConfig) (policy : Theme.MissingGroups) : StyleConfig :=
  { c with missingGroups := policy }

theorem Compiler.compile_withPolicy {c : StyleConfig} {r : Theme.Registry}
    (hproperties : ∀ g ∈ c.customProperties, (r.get? g.group).isSome)
    (hutilities : ∀ f ∈ c.utilities, (r.get? f.group).isSome) (rules : RuleTable)
    (tokens : List String) (policy : Theme.MissingGroups) :
    compile ⟨r, rules, c.withPolicy policy⟩ tokens =
      compile ⟨r, rules, c.withPolicy .skipGroup⟩ tokens := by
  have hfragments : themeFragments ⟨r, rules, c.withPolicy policy⟩ =
      themeFragments ⟨r, rules, c.withPolicy .skipGroup⟩ := by
    simp only [themeFragments, StyleConfig.withPolicy, Theme.customProperties, Theme.utilities]
    rw [Theme.emitEach_of_present hproperties, Theme.emitEach_of_present hutilities]
  rw [compile, compile, hfragments]
  rfl

theorem Compiler.compile_withPresent (c : StyleConfig) (r : Theme.Registry) (rules : RuleTable)
    (tokens : List String) (policy : Theme.MissingGroups) :
    compile ⟨r, rules, (c.withPresent r).withPolicy policy⟩ tokens =
      compile ⟨r, rules, c.withPolicy .skipGroup⟩ tokens := by
  have hfragments : themeFragments ⟨r, rules, (c.withPresent r).withPolicy policy⟩ =
      themeFragments ⟨r, rules, c.withPolicy .skipGroup⟩ := by
    simp only [themeFragments, StyleConfig.withPolicy, StyleConfig.withPresent,
      Theme.customProperties_eq_foldl, Theme.utilities_eq_flatMap, Theme.resolve_present]
  rw [compile, compile, hfragments]
  rfl

/-- A check reports on every group that is made use of, once each, in the order of first use, and
calls missing those that the registry lacks. If there are none, the policy about them makes no
difference to a stylesheet; and to skip them is to leave out what refers to them. -/
theorem Command.groupReport_decides (c : StyleConfig) (r : Theme.Registry) :
    (∃ groups : List String,
      groupReport c r = groups.map (groupLine r) ∧ (groupReport c r).Nodup ∧
      (groups.Pairwise fun a b => (references c).idxOf a < (references c).idxOf b) ∧
      ∀ group, group ∈ groups ↔ group ∈ references c) ∧
    (∀ group, missingLine group ∈ groupReport c r ↔
      group ∈ references c ∧ r.get? group = none) ∧
    (∀ (rules : RuleTable) (tokens : List String),
      (∀ group, missingLine group ∉ groupReport c r) →
      Compiler.compile ⟨r, rules, c.withPolicy .skipGroup⟩ tokens =
        Compiler.compile ⟨r, rules, c.withPolicy .skipEmitter⟩ tokens) ∧
    (∀ (rules : RuleTable) (tokens : List String) (policy : Theme.MissingGroups),
      Compiler.compile ⟨r, rules, c.withPolicy .skipGroup⟩ tokens =
        Compiler.compile ⟨r, rules, (c.withPresent r).withPolicy policy⟩ tokens) := by
  have horder := pairwise_idxOf_eraseDups (references c)
  refine ⟨⟨usedGroups c, rfl, ?_, horder, fun _ => mem_usedGroups⟩,
    fun _ => missingLine_mem_groupReport, ?_, ?_⟩
  · have hnodup : (usedGroups c).Nodup := by
      refine horder.imp ?_
      rintro group other hlt rfl
      exact Nat.lt_irrefl _ hlt
    exact hnodup.map (groupLine_injective r)
  · intro rules tokens hnone
    have hpresent : ∀ group ∈ references c, (r.get? group).isSome := by
      intro group hgroup
      rw [Option.isSome_iff_ne_none]
      exact fun hget => hnone group (missingLine_mem_groupReport.2 ⟨hgroup, hget⟩)
    have hproperties : ∀ g ∈ c.customProperties, (r.get? g.group).isSome :=
      fun g hg => hpresent _ (List.mem_append_left _ (List.mem_map_of_mem hg))
    have hutilities : ∀ f ∈ c.utilities, (r.get? f.group).isSome :=
      fun f hf => hpresent _ (List.mem_append_right _ (List.mem_map_of_mem hf))
    exact (Compiler.compile_withPolicy hproperties hutilities rules tokens .skipEmitter).symm
  · intro rules tokens policy
    exact (Compiler.compile_withPresent c r rules tokens policy).symm

theorem Command.groupReport_decides_shared :
    let c : StyleConfig :=
      { customProperties := [⟨"spacing", "space"⟩, ⟨"colors", "color"⟩, ⟨"spacing", "gap"⟩]
        utilities := [⟨"spacing", "gutter", "--gutter"⟩] }
    let spacing : String × Theme.TokenGroup := ("spacing", .singleton "s" (.scalar "1rem"))
    let full : Theme.Registry := .ofList [spacing, ("colors", .singleton "ink" (.scalar "#111"))]
    let rules : RuleTable := ⟨[]⟩
    missingLine "colors" ∈ groupReport c (.ofList [spacing]) ∧
      (∀ group, missingLine group ∉ groupReport c full) ∧
      Compiler.compile ⟨full, rules, c.withPolicy .skipGroup⟩ ["flow"] =
        Compiler.compile ⟨full, rules, c.withPolicy .skipEmitter⟩ ["flow"] := by
  intro c spacing full rules
  obtain ⟨-, hmissing, hpolicy, -⟩ := groupReport_decides c full
  have hpresent : ∀ group ∈ references c, full.get? group ≠ none := by decide
  have hnone : ∀ group, missingLine group ∉ groupReport c full := by
    intro group hline
    obtain ⟨hgroup, hget⟩ := (hmissing group).1 hline
    exact hpresent group hgroup hget
  exact ⟨missingLine_mem_groupReport.2 (by decide), hnone, hpolicy rules ["flow"] hnone⟩

end UtilityCss
