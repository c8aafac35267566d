import Mathlib.Data.List.Sort
import UtilityCss.Compile
import UtilityCss.Proofs.Rule.Extension
import UtilityCss.Proofs.StableSort

/-!
What a compilation puts into the stylesheet, and in which order: after the theme come the rules one
by one, and under each rule the tokens that it is the first to accept, in ascending order. Only the
set of tokens matters.
-/
namespace UtilityCss

open Css (Fragment)

namespace RuleTable

/-- The place of the first rule that accepts the token. -/
def firstAccepting (table : RuleTable) (token : String) : Option Nat :=
  table.rules.findIdx? fun r => (r.matcher.accept token).isSome

def fragments (table : RuleTable) (token : String) : List Fragment :=
  (table.dispatch token).elim [] Dispatch.fragments

theorem dispatchFrom_rule (token : String) (start : Nat) (rules : List CompiledRule) :
    (dispatchFrom token start rules).map Dispatch.rule =
      (rules.findIdx? fun r => (r.matcher.accept token).isSome).map (· + start) := by
  induction rules generalizing start with
  | nil => rfl
  | cons r rest ih =>
    rw [dispatchFrom, List.findIdx?_cons, ← isSome_fragments?]
    cases hr : r.fragments? token with
    | some fragments => simp
    | none =>
      simp only [Option.isSome_none, Bool.false_eq_true, if_false, Option.map_map]
      rw [ih (start + 1)]
      congr 1
      funext i
      simp only [Function.comp_apply]
      omega

theorem dispatch_rule (table : RuleTable) (token : String) :
    (table.dispatch token).map Dispatch.rule = table.firstAccepting token := by
  rw [dispatch, dispatchFrom_rule, firstAccepting]
  simp

theorem firstAccepting_lt {table : RuleTable} {token : String} {i : Nat}
    (h : table.firstAccepting token = some i) : i < table.size := by
  obtain ⟨hi, _⟩ := List.findIdx?_eq_some_iff_getElem.1 h
  exact hi

def fragmentsByRule (table : RuleTable) (tokens : List String) : List Fragment :=
  (List.range table.size).flatMap fun i =>
    (tokens.filter fun token => table.firstAccepting token = some i).flatMap table.fragments

def isProductive (table : RuleTable) (token : String) : Bool := decide (table.fragments token ≠ [])

end RuleTable

namespace Compiler

def fragments (c : Compiler) (tokens : List String) : List Fragment :=
  c.themeFragments ++ (byRule (dispatches c.rules (requested tokens))).flatMap Dispatch.fragments

theorem compile_css (c : Compiler) (tokens : List String) :
    (c.compile tokens).css = Css.Stylesheet.compose (c.fragments tokens) c.config.output := rfl

theorem mem_requested {token : String} {tokens : List String} :
    token ∈ requested tokens ↔ token ∈ tokens ∧ token ≠ "" := by
  simp [requested]

theorem pairwise_requested (tokens : List String) : (requested tokens).Pairwise (· < ·) :=
  Text.pairwise_distinct _

theorem requested_congr {tokens others : List String}
    (h : ∀ token, token ≠ "" → (token ∈ others ↔ token ∈ tokens)) :
    requested others = requested tokens := by
  apply (pairwise_requested others).eq_of_mem_iff (pairwise_requested tokens)
  intro token
  rw [mem_requested, mem_requested]
  exact and_congr_left (h token)

variable {table : RuleTable}

theorem mem_dispatches {tokens : List String} {d : Dispatch} :
    d ∈ dispatches table tokens ↔
      ∃ token ∈ tokens, table.dispatch token = some d ∧ d.fragments ≠ [] := by
  simp [dispatches, Option.filter_eq_some_iff]

theorem rule_lt_of_mem_dispatches {tokens : List String} {d : Dispatch}
    (h : d ∈ dispatches table tokens) : d.rule < table.size := by
  obtain ⟨token, _, hd, _⟩ := mem_dispatches.1 h
  have hfirst : table.firstAccepting token = some d.rule := by
    rw [← RuleTable.dispatch_rule, hd, Option.map_some]
  exact RuleTable.firstAccepting_lt hfirst

theorem dispatches_cons_of_none {token : String} (h : table.dispatch token = none)
    (rest : List String) : dispatches table (token :: rest) = dispatches table rest := by
  simp [dispatches, h]

theorem dispatches_cons_of_some {token : String} {d : Dispatch}
    (h : table.dispatch token = some d) (rest : List String) :
    dispatches table (token :: rest) =
      if d.fragments = [] then dispatches table rest else d :: dispatches table rest := by
  by_cases hempty : d.fragments = []
  · simp [dispatches, h, hempty, Option.filter]
  · simp [dispatches, h, hempty, Option.filter]

theorem fragments_of_dispatch {token : String} {d : Dispatch}
    (h : table.dispatch token = some d) : table.fragments token = d.fragments := by
  simp [RuleTable.fragments, h]

theorem flatMap_dispatches (tokens : List String) (i : Nat) :
    ((dispatches table tokens).filter fun d => d.rule = i).flatMap Dispatch.fragments =
      (tokens.filter fun token => table.firstAccepting token = some i).flatMap
        table.fragments := by
  induction tokens with
  | nil => rfl
  | cons token rest ih =>
    have hrule := table.dispatch_rule token
    cases hd : table.dispatch token with
    | none =>
      rw [hd, Option.map_none] at hrule
      rw [dispatches_cons_of_none hd, ih]
      simp [← hrule]
    | some d =>
      rw [hd, Option.map_some] at hrule
      have hfragments := fragments_of_dispatch hd
      rw [dispatches_cons_of_some hd]
      by_cases hempty : d.fragments = []
      · by_cases hi : d.rule = i
        · simp [← hrule, hempty, hfragments, hi, ih]
        · simp [← hrule, hempty, hi, ih]
      · by_cases hi : d.rule = i
        · simp [← hrule, hempty, hfragments, hi, ih]
        · simp [← hrule, hempty, hi, ih]

theorem flatMap_byRule (tokens : List String) :
    (byRule (dispatches table tokens)).flatMap Dispatch.fragments =
      table.fragmentsByRule tokens := by
  have hsort : byRule (dispatches table tokens) = (List.range table.size).flatMap fun i =>
      (dispatches table tokens).filter fun d => d.rule = i :=
    StableSort.mergeSort_eq_flatMap fun _ hd => rule_lt_of_mem_dispatches hd
  rw [hsort, List.flatMap_assoc]
  exact List.flatMap_congr fun i _ => flatMap_dispatches tokens i

theorem length_dispatches (tokens : List String) :
    (dispatches table tokens).length = tokens.countP table.isProductive := by
  induction tokens with
  | nil => rfl
  | cons token rest ih =>
    rw [List.countP_cons, RuleTable.isProductive]
    cases hd : table.dispatch token with
    | none => simp [dispatches_cons_of_none hd, RuleTable.fragments, hd, ih]
    | some d =>
      rw [dispatches_cons_of_some hd, fragments_of_dispatch hd]
      by_cases hempty : d.fragments = []
      · simp [hempty, ih]
      · simp [hempty, ih]

theorem flatMap_filter_isProductive (tokens : List String) :
    (tokens.filter table.isProductive).flatMap table.fragments =
      tokens.flatMap table.fragments := by
  induction tokens with
  | nil => rfl
  | cons token rest ih =>
    rw [List.filter_cons, List.flatMap_cons, ← ih]
    by_cases hempty : table.fragments token = []
    · simp [RuleTable.isProductive, hempty]
    · simp [RuleTable.isProductive, hempty]

/-- Only tokens that give something leave a trace. -/
theorem fragmentsByRule_filter (tokens : List String) :
    table.fragmentsByRule (tokens.filter table.isProductive) = table.fragmentsByRule tokens := by
  unfold RuleTable.fragmentsByRule
  apply List.flatMap_congr
  intro i _
  rw [List.filter_comm, flatMap_filter_isProductive]

theorem filter_requested_congr {tokens others : List String}
    (h : ∀ token ∈ tokens, token ∈ others)
    (hnew : ∀ token ∈ others, token ∉ tokens → table.fragments token = []) :
    (requested others).filter table.isProductive =
      (requested tokens).filter table.isProductive := by
  apply ((pairwise_requested others).filter _).eq_of_mem_iff ((pairwise_requested tokens).filter _)
  intro token
  simp only [List.mem_filter, mem_requested, RuleTable.isProductive]
  constructor
  · rintro ⟨⟨hmem, hne⟩, hproductive⟩
    refine ⟨⟨?_, hne⟩, hproductive⟩
    by_contra hold
    simp [hnew token hmem hold] at hproductive
  · rintro ⟨⟨hmem, hne⟩, hproductive⟩
    exact ⟨⟨h token hmem, hne⟩, hproductive⟩

theorem compile_eq (c : Compiler) (tokens : List String) :
    c.compile tokens =
      { css := Css.Stylesheet.compose
          (c.themeFragments ++ c.rules.fragmentsByRule (requested tokens)) c.config.output
        matched := (requested tokens).countP c.rules.isProductive
        unmatched := (requested tokens).countP fun token => !c.rules.isProductive token } := by
  have hsplit := List.length_eq_countP_add_countP c.rules.isProductive (l := requested tokens)
  have hunmatched : (requested tokens).length - (dispatches c.rules (requested tokens)).length =
      (requested tokens).countP fun token => !c.rules.isProductive token := by
    simp only [length_dispatches, Bool.not_eq_true, Bool.decide_eq_false] at hsplit ⊢
    omega
  rw [compile, flatMap_byRule, hunmatched, length_dispatches]

theorem css_nil (c : Compiler) :
    (c.compile []).css = Css.Stylesheet.compose c.themeFragments c.config.output := by
  have hrequested : requested [] = [] := by simp [requested, Text.distinct, Text.dropRepeats]
  rw [compile_css, fragments, hrequested]
  simp [dispatches, byRule]

theorem css_of_dispatch (c : Compiler) {token : String} (hne : token ≠ "") {d : Dispatch}
    (h : c.rules.dispatch token = some d) (hd : d.fragments ≠ []) :
    (c.compile [token]).css =
      Css.Stylesheet.compose (c.themeFragments ++ d.fragments) c.config.output := by
  have hrequested : requested [token] = [token] := by
    simp [requested, Text.distinct, Text.dropRepeats, hne]
  rw [compile_css, fragments, hrequested, dispatches_cons_of_some h, if_neg hd]
  simp [dispatches, byRule]

/-- The stylesheet is written from the theme and, rule by rule, from the tokens in ascending order.
It depends on the set of tokens alone, and tokens that give nothing only count as unmatched. -/
theorem compile_order (c : Compiler) (tokens : List String) :
    (∃ sorted : List String,
      sorted.Pairwise (· < ·) ∧
      (∀ token, token ∈ sorted ↔ token ∈ tokens ∧ token ≠ "") ∧
      c.compile tokens =
        { css := Css.Stylesheet.compose
            (c.themeFragments ++
              (List.range c.rules.size).flatMap fun i =>
                (sorted.filter fun token => c.rules.firstAccepting token = some i).flatMap
                  c.rules.fragments)
            c.config.output
          matched := sorted.countP fun token => c.rules.fragments token ≠ []
          unmatched := sorted.countP fun token => c.rules.fragments token = [] }) ∧
    (∀ others : List String,
      (∀ token, token ≠ "" → (token ∈ others ↔ token ∈ tokens)) →
      c.compile others = c.compile tokens) ∧
    (∀ others : List String,
      (∀ token ∈ tokens, token ∈ others) →
      (∀ token ∈ others, token ∉ tokens → c.rules.fragments token = []) →
      (c.compile others).css = (c.compile tokens).css ∧
        (c.compile others).matched = (c.compile tokens).matched) := by
  refine ⟨⟨requested tokens, pairwise_requested tokens, fun _ => mem_requested, ?_⟩, ?_, ?_⟩
  · have hunproductive : (fun token => !c.rules.isProductive token) =
        fun token => decide (c.rules.fragments token = []) := by
      funext token
      simp [RuleTable.isProductive]
    rw [compile_eq, hunproductive]
    rfl
  · intro others h
    rw [compile_eq, compile_eq, requested_congr h]
  · intro others h hnew
    have hfilter := filter_requested_congr h hnew
    constructor
    · rw [compile_eq, compile_eq, ← fragmentsByRule_filter, hfilter, fragmentsByRule_filter]
    · rw [compile_eq, compile_eq]
      simp only [List.countP_eq_length_filter, hfilter]

theorem compile_order_layouts :
    let rules : RuleTable :=
      ⟨[BuiltIn.flow, BuiltIn.cluster].map fun r => ⟨r.name, .exact r.name, r.layer, r.output⟩⟩
    let c : Compiler := ⟨.empty, rules, {}⟩
    c.compile ["cluster", "", "flow", "cluster"] = c.compile ["flow", "cluster"] ∧
      (c.compile ["flow", "cluster", "text-red"]).css = (c.compile ["flow", "cluster"]).css ∧
      (c.compile ["flow", "cluster", "text-red"]).matched =
        (c.compile ["flow", "cluster"]).matched := by
  intro rules c
  have h := compile_order c ["flow", "cluster"]
  refine ⟨h.2.1 _ ?_, h.2.2 _ ?_ ?_⟩
  · intro token hne
    simp only [List.mem_cons, hne, List.not_mem_nil, or_false, false_or]
    tauto
  · intro token hmem
    simp only [List.mem_cons, List.not_mem_nil, or_false] at hmem ⊢
    tauto
  · intro token hmem hnew
    have htoken : token = "text-red" := by
      simp only [List.mem_cons, List.not_mem_nil, or_false, not_or] at hmem hnew
      tauto
    rw [htoken]
    rfl

end Compiler

end UtilityCss
