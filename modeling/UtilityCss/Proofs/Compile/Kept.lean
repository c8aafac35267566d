import UtilityCss.Proofs.Compile.Order
import UtilityCss.Proofs.Content.Extract
import UtilityCss.Proofs.Css.Written
import UtilityCss.Proofs.Rule.Disjoint

/-!
No class is lost on its way from a content text to the stylesheet: what the built-in rules accept is
among the candidates of the text, and what it gives is written out.
-/
namespace UtilityCss

open Css (Fragment IsPart)
open Css.Identifier (classSelector isFragmentChar)

namespace Compiler

variable {token : String} {tokens : List String}

theorem isPart_compile (c : Compiler) (htoken : token ∈ tokens) (hne : token ≠ "") {d : Dispatch}
    (h : c.rules.dispatch token = some d) {f : Fragment} (hf : f ∈ d.fragments)
    (heffective : f.isEffective) :
    IsPart (f.text c.config.output) (c.compile tokens).css := by
  have hd : d ∈ dispatches c.rules (requested tokens) :=
    mem_dispatches.2 ⟨token, mem_requested.2 ⟨htoken, hne⟩, h, List.ne_nil_of_mem hf⟩
  have hmem : f ∈ c.fragments tokens :=
    List.mem_append_right _ (List.mem_flatMap.2 ⟨d, List.mem_mergeSort.2 hd, hf⟩)
  exact Css.Stylesheet.isPart_compose hmem heffective c.config.output

end Compiler

namespace BuiltIn

variable {limit : Option Nat} {table : RuleTable} {token : String}

theorem Accepts.isWord (h : Accepts token) :
    token.toList.all isFragmentChar ∧ token.toList.head?.any Char.isAlphanum := by
  obtain hname | ⟨stem, hstem, suffix, hsuffix, rfl⟩ := h
  · have hnames : ∀ name ∈ layouts.map Rule.name,
        name.toList.all isFragmentChar ∧ name.toList.head?.any Char.isAlphanum := by decide
    exact hnames token hname
  · have hstems : ∀ stem ∈ stems, stem.toList ≠ [] ∧ (stem ++ "-").toList.all isFragmentChar ∧
        stem.toList.head?.any Char.isAlphanum := by decide
    obtain ⟨hne, hchars, hhead⟩ := hstems stem hstem
    constructor
    · rw [String.toList_append, List.all_append, hchars]
      exact (Bool.and_eq_true_iff.1 hsuffix).2
    · rw [String.append_assoc, String.toList_append, List.head?_append_of_ne_nil _ hne]
      exact hhead

/-- A rule for an element of the class, or for others that are found from there. -/
def IsRuleOf (token : String) (f : Fragment) : Prop :=
  f.isEffective ∧ (classSelector token).toList <+: f.selector.toList

instance (token : String) (f : Fragment) : Decidable (IsRuleOf token f) :=
  inferInstanceAs (Decidable (_ ∧ _))

def layoutFragments (r : Rule) : List Fragment :=
  (r.output ⟨r.name, []⟩ (classSelector r.name)).fragments (classSelector r.name) r.layer

theorem isRuleOf_layout {r : Rule} (hr : r ∈ layouts) :
    layoutFragments r ≠ [] ∧ ∀ f ∈ layoutFragments r, IsRuleOf r.name f := by
  have hall : ∀ r ∈ layouts,
      layoutFragments r ≠ [] ∧ ∀ f ∈ layoutFragments r, IsRuleOf r.name f := by decide
  exact hall r hr

theorem exists_dispatch (h : RuleTable.ofRules limit rules = .ok table) (haccepts : Accepts token) :
    ∃ d, table.dispatch token = some d ∧ d.fragments ≠ [] ∧ ∀ f ∈ d.fragments, IsRuleOf token f := by
  obtain hname | ⟨stem, hstem, suffix, hsuffix, rfl⟩ := haccepts
  · have hmem : token ∈ layouts.map Rule.name := hname
    obtain ⟨r, hr, rfl⟩ := List.mem_map.1 hmem
    obtain ⟨front, back, hsplit⟩ := List.append_of_mem hr
    exact ⟨_, dispatch_layout h hsplit, isRuleOf_layout hr⟩
  · obtain ⟨i, -, hdispatch⟩ := dispatch_family h hstem hsuffix
    refine ⟨_, hdispatch, List.cons_ne_nil _ _, ?_⟩
    intro f hf
    obtain rfl := List.mem_singleton.1 hf
    exact ⟨rfl, List.prefix_refl _⟩

/-- A class that the built-in rules accept is taken from every text in which it stands between
separators, and all its rules are in every stylesheet that is made with them for the text. -/
theorem class_kept :
    ∃ table, RuleTable.ofRules (some Regex.sizeLimit) rules = .ok table ∧
      ∀ text token : String, Content.IsPiece text.toList token.toList →
        (table.dispatch token).isSome →
          token ∈ Content.extractTokens text ∧
          ∃ d, table.dispatch token = some d ∧ d.fragments ≠ [] ∧
            ∀ f ∈ d.fragments, IsRuleOf token f ∧ ∀ c : Compiler, c.rules = table →
              IsPart (f.text c.config.output) (c.compile (Content.extractTokens text)).css := by
  obtain ⟨table, htable⟩ : ∃ table, RuleTable.ofRules (some Regex.sizeLimit) rules = .ok table :=
    RuleTable.exists_ofRules_iff.2 fun r hr => exists_compile hr
  refine ⟨table, htable, ?_⟩
  intro text token hpiece hsome
  have haccepts := (isSome_dispatch htable token).1 hsome
  obtain ⟨hchars, hhead⟩ := haccepts.isWord
  have hextracted : token ∈ Content.extractTokens text :=
    Content.mem_extractTokens.2 (Content.mem_candidates_of_isPiece hpiece hchars hhead)
  obtain ⟨d, hdispatch, hfragments, hrules⟩ := exists_dispatch htable haccepts
  refine ⟨hextracted, d, hdispatch, hfragments, fun f hf => ⟨hrules f hf, ?_⟩⟩
  rintro c rfl
  have hne : token ≠ "" := by
    rintro rfl
    exact absurd hhead (by decide)
  exact c.isPart_compile hextracted hne hdispatch hf (hrules f hf).1

theorem class_kept_quoted :
    let text := "<p class=\"flow gutter-s\">"
    "gutter-s" ∈ Content.extractTokens text ∧ ∃ table f, IsRuleOf "gutter-s" f ∧
      IsPart f.compressed
        (Compiler.compile ⟨.empty, table, { output := { style := .compressed } }⟩
          (Content.extractTokens text)).css := by
  intro text
  obtain ⟨table, htable, h⟩ := class_kept
  have hpiece : Content.IsPiece text.toList "gutter-s".toList :=
    ⟨"<p class=\"flow ".toList, "\">".toList, by decide, by decide, by decide, by decide⟩
  have haccepts : Accepts "gutter-s" := .inr ⟨"gutter", by decide, "s", by decide, rfl⟩
  obtain ⟨hextracted, d, -, hsome, hrules⟩ :=
    h text "gutter-s" hpiece ((isSome_dispatch htable _).2 haccepts)
  obtain ⟨f, hf⟩ := List.exists_mem_of_ne_nil _ hsome
  obtain ⟨hrule, hpart⟩ := hrules f hf
  exact ⟨hextracted, table, f, hrule, hpart ⟨.empty, table, _⟩ rfl⟩

end BuiltIn

end UtilityCss
