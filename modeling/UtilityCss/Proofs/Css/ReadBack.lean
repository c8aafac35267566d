import UtilityCss.Proofs.Css.Groups
import UtilityCss.Proofs.Css.ReadRules
import UtilityCss.Proofs.StableSort

/-!
Reading a composed stylesheet gives back the rules that were written, in all four ways of writing
them, with their layers where the text has layers.
-/
namespace UtilityCss.Css

variable {d : Delimiting} {o : OutputOptions} {style : OutputStyle}

namespace Reader

variable {fragments : List Fragment} {layer : Option Layer} {rules : List StyleRule}
  {gap : List Char}

theorem run_rules (hf : ∀ f ∈ fragments, f.Readable d) (heffective : ∀ f ∈ fragments, f.isEffective)
    (hgap : IsGap gap) (hlayer : o.layers = .layered → layer ≠ none) :
    ∃ back, IsGap back ∧
      (Stylesheet.rules o.style (indentText o) fragments).toList.foldlM (step d o)
          ⟨gap, false, layer, none, rules⟩ =
        some ⟨back, false, layer, none, rules ++ fragments.map (ruleOf layer)⟩ := by
  obtain ⟨layers, style⟩ := o
  induction fragments generalizing gap rules with
  | nil => exact ⟨gap, hgap, by cases style <;> simp [Stylesheet.rules]⟩
  | cons f rest ih =>
    have hrest : ∀ x ∈ rest, x.Readable d := fun x hx => hf x (by simp [hx])
    have hrestEffective : ∀ x ∈ rest, x.isEffective := fun x hx => heffective x (by simp [hx])
    cases style with
    | compressed =>
      obtain ⟨back, hback, hrun⟩ := ih hrest hrestEffective isGap_nil
      refine ⟨back, hback, ?_⟩
      simp only [Stylesheet.rules] at hrun
      rw [Stylesheet.rules, List.map_cons, String.join_cons, String.toList_append,
        run_append (run_compressed (hf f (by simp)) (heffective f (by simp)) hgap hlayer), hrun]
      simp
    | expanded =>
      cases rest with
      | nil =>
        refine ⟨['\n'], isGap_newline, ?_⟩
        rw [Stylesheet.rules, List.map_singleton, String.intercalate_singleton,
          run_expanded (hf f (by simp)) hgap hlayer]
        rfl
      | cons g rest =>
        obtain ⟨back, hback, hrun⟩ := ih hrest hrestEffective
          (isGap_append isGap_newline isGap_newline)
        refine ⟨back, hback, ?_⟩
        have hnewline : "\n".toList = ['\n'] := rfl
        simp only [Stylesheet.rules, List.map_cons] at hrun
        rw [Stylesheet.rules, List.map_cons, List.map_cons, String.intercalate_cons_cons,
          String.toList_append, String.toList_append, List.append_assoc, hnewline,
          run_append (run_expanded (hf f (by simp)) hgap hlayer),
          run_append (run_gap isGap_newline), hrun]
        simp

def layerHead (o : OutputOptions) (layer : Layer) : List Char :=
  layerKeyword ++ (layer.name.toList ++ space o.style)

theorem layer?_head (hgap : IsGap gap) (layer : Layer) :
    layer? o (gap ++ layerHead o layer) = some layer := by
  have hhead : (layerHead o layer).head? ≠ some '\n' := by
    simp [layerHead, layerKeyword]
  have hunindent : unindent o.style 0 (gap ++ layerHead o layer) = some (layerHead o layer) := by
    have h : unindent o.style 0 (gap ++ (indent o.style 0 ++ layerHead o layer)) =
        some (layerHead o layer) := unindent_append hgap hhead
    rwa [indent_zero, List.nil_append] at h
  rw [layer?, hunindent]
  simp only [Option.bind_eq_bind, Option.bind_some, layerHead, dropPrefix?_append,
    dropSuffix?_append, String.ofList_toList, Layer.ofName?_name]

theorem inert_layerHead (layer : Layer) : inert d false false (layerHead o layer) := by
  apply inert_append
  · cases d <;> rfl
  · apply inert_append
    · cases layer <;> cases d <;> rfl
    · exact inert_space

theorem run_layerHead {style : OutputStyle} (hgap : IsGap gap) (layer : Layer) :
    (layerHead ⟨.layered, style⟩ layer ++ ['\x7b']).foldlM (step d ⟨.layered, style⟩)
        ⟨gap, false, none, none, rules⟩ =
      some ⟨[], false, some layer, none, rules⟩ := by
  rw [run_append (run_inert _ (inert_layerHead layer)), run_singleton, step_open _ rfl, openBlock]
  simp [layer?_head hgap]

theorem run_layerEnd {style : OutputStyle} (hgap : IsGap gap) (layer : Layer) :
    ['\x7d'].foldlM (step d ⟨.layered, style⟩) ⟨gap, false, some layer, none, rules⟩ =
      some ⟨[], false, none, none, rules⟩ := by
  have hempty : unindent style 0 gap = some [] := by
    have h : unindent style 0 (gap ++ indent style 0) = some [] := unindent_indent hgap
    rwa [indent_zero, List.append_nil] at h
  rw [run_singleton, step_close _ rfl, closeBlock]
  simp [hempty]

def blockGap : OutputStyle → List Char
  | .expanded => ['\n', '\n']
  | .compressed => []

def lineEnd : OutputStyle → List Char
  | .expanded => ['\n']
  | .compressed => []

theorem isGap_blockGap : IsGap (blockGap style) := by
  cases style <;> simp [IsGap, blockGap]

theorem isGap_lineEnd : IsGap (lineEnd style) := by
  cases style <;> simp [IsGap, lineEnd]

theorem toList_layerBlock (layer : Layer) :
    (Stylesheet.layerBlock style layer fragments).toList =
      blockGap style ++ ((layerHead ⟨.layered, style⟩ layer ++ ['\x7b']) ++ (lineEnd style ++
        ((Stylesheet.rules style (indentText ⟨.layered, style⟩) fragments).toList ++
          ['\x7d']))) := by
  cases style with
  | expanded =>
    have hindent : indentText ⟨.layered, .expanded⟩ = "  " := rfl
    simp [Stylesheet.layerBlock, blockGap, lineEnd, layerHead, layerKeyword, space, hindent]
  | compressed =>
    have hindent : indentText ⟨.layered, .compressed⟩ = "" := rfl
    simp [Stylesheet.layerBlock, blockGap, lineEnd, layerHead, layerKeyword, space, hindent]

theorem run_layerBlock (hf : ∀ f ∈ fragments, f.Readable d)
    (heffective : ∀ f ∈ fragments, f.isEffective) (layer : Layer) :
    (Stylesheet.layerBlock style layer fragments).toList.foldlM (step d ⟨.layered, style⟩)
        ⟨[], false, none, none, rules⟩ =
      some ⟨[], false, none, none, rules ++ fragments.map (ruleOf (some layer))⟩ := by
  obtain ⟨back, hback, hrules⟩ :=
    run_rules (o := ⟨.layered, style⟩) hf heffective isGap_lineEnd fun _ => Option.some_ne_none layer
  rw [toList_layerBlock, run_append (run_gap isGap_blockGap), List.nil_append,
    run_append (run_layerHead isGap_blockGap layer), run_append (run_gap isGap_lineEnd),
    List.nil_append, run_append hrules]
  exact run_layerEnd hback layer

theorem run_layerBlocks {groups : List (Layer × List Fragment)}
    (hf : ∀ g ∈ groups, ∀ f ∈ g.2, f.Readable d)
    (heffective : ∀ g ∈ groups, ∀ f ∈ g.2, f.isEffective) :
    (String.join (groups.map fun g => Stylesheet.layerBlock style g.1 g.2)).toList.foldlM
        (step d ⟨.layered, style⟩) ⟨[], false, none, none, rules⟩ =
      some ⟨[], false, none, none,
        rules ++ groups.flatMap fun g => g.2.map (ruleOf (some g.1))⟩ := by
  induction groups generalizing rules with
  | nil => simp
  | cons g rest ih =>
    rw [List.map_cons, String.join_cons, String.toList_append,
      run_append (run_layerBlock (hf g (by simp)) (heffective g (by simp)) g.1),
      ih (fun x hx => hf x (by simp [hx])) fun x hx => heffective x (by simp [hx])]
    simp

end Reader

def StyleRule.ofFragment (mode : LayerMode) (f : Fragment) : StyleRule :=
  match mode with
  | .layered => Reader.ruleOf (some f.layer) f
  | .flattened => Reader.ruleOf none f

def StyleRule.flatten (r : StyleRule) : StyleRule := { r with layer := none }

@[simp] theorem StyleRule.flatten_ofFragment (mode : LayerMode) (f : Fragment) :
    (StyleRule.ofFragment mode f).flatten = StyleRule.ofFragment .flattened f := by
  cases mode <;> rfl

theorem StyleRule.ofFragment_layered_injective :
    Function.Injective (StyleRule.ofFragment .layered) := by
  intro f g h
  obtain ⟨_, _, _⟩ := f
  obtain ⟨_, _, _⟩ := g
  simp only [StyleRule.ofFragment, Reader.ruleOf, StyleRule.mk.injEq, Option.some.injEq] at h
  obtain ⟨rfl, rfl, hentries⟩ := h
  rw [OrderedMap.ext hentries]

namespace Stylesheet

/-- The fragments that leave a trace, by layer; those of one layer keep their order. -/
def canonical (fragments : List Fragment) : List Fragment :=
  (fragments.filter Fragment.isEffective).mergeSort (StableSort.byKey fun f => f.layer.rank)

variable {fragments : List Fragment}

theorem mem_canonical {f : Fragment} :
    f ∈ canonical fragments ↔ f ∈ fragments ∧ f.isEffective := by
  simp [canonical]

theorem rank_eq_rank {a b : Layer} : a.rank = b.rank ↔ a = b := by
  cases a <;> cases b <;> simp [Layer.rank]

theorem canonical_eq_flatMap (fragments : List Fragment) :
    canonical fragments = Layer.all.flatMap (ofLayer fragments) := by
  have hbound : ∀ f ∈ fragments.filter Fragment.isEffective, f.layer.rank < 4 := by
    intro f _
    cases f.layer <;> decide
  have hlayer : ∀ layer : Layer, ofLayer fragments layer =
      (fragments.filter Fragment.isEffective).filter fun f => f.layer.rank = layer.rank := by
    intro layer
    rw [ofLayer, List.filter_filter]
    apply List.filter_congr
    intro f _
    simp only [rank_eq_rank, Bool.and_comm]
  rw [canonical, StableSort.mergeSort_eq_flatMap hbound]
  simp only [Layer.all, List.flatMap_cons, List.flatMap_nil, hlayer]
  rfl

theorem groups_eq_nil_iff : groups fragments = [] ↔ canonical fragments = [] := by
  rw [canonical_eq_flatMap, groups_eq, occupied]
  simp [List.filter_eq_nil_iff]

theorem flatMap_groups_flattened :
    ((groups fragments).flatMap Prod.snd).map (StyleRule.ofFragment .flattened) =
      (canonical fragments).map (StyleRule.ofFragment .flattened) := by
  rw [flatMap_groups (fun _ => rfl), canonical_eq_flatMap]

theorem flatMap_groups_layered :
    ((groups fragments).flatMap fun g => g.2.map (Reader.ruleOf (some g.1))) =
      (canonical fragments).map (StyleRule.ofFragment .layered) := by
  rw [flatMap_groups (fun _ => rfl), canonical_eq_flatMap, List.map_flatMap]
  apply List.flatMap_congr
  intro layer _
  apply List.map_congr_left
  intro f hf
  have hmem := (List.mem_filter.1 hf).2
  simp only [Bool.and_eq_true, decide_eq_true_eq] at hmem
  obtain ⟨_, hlayer⟩ := hmem
  rw [StyleRule.ofFragment, hlayer]

theorem layerOrder_eq_head (style : OutputStyle) : layerOrder style = Reader.head style := by
  cases style <;> rfl

theorem read_flattened {d : Delimiting} {fragments : List Fragment} (style : OutputStyle)
    (hf : ∀ f ∈ fragments, f.Readable d) (heffective : ∀ f ∈ fragments, f.isEffective) :
    Reader.read d ⟨.flattened, style⟩ (rules style "" fragments) =
      some (fragments.map (StyleRule.ofFragment .flattened)) := by
  have hindent : Reader.indentText ⟨.flattened, style⟩ = "" := by
    cases style <;> rfl
  obtain ⟨back, hback, hrun⟩ := Reader.run_rules (o := ⟨.flattened, style⟩) hf heffective
    Reader.isGap_nil (fun h => nomatch h)
  rw [hindent] at hrun
  have hall : back.all (· = '\n') = true := by
    simpa [Reader.IsGap] using hback
  simp only [Reader.read]
  rw [hrun]
  simp only [Option.bind_some, Reader.finish, hall]
  rfl

theorem read_layered {d : Delimiting} {groups : List (Layer × List Fragment)} (style : OutputStyle)
    (hf : ∀ g ∈ groups, ∀ f ∈ g.2, f.Readable d)
    (heffective : ∀ g ∈ groups, ∀ f ∈ g.2, f.isEffective) :
    Reader.read d ⟨.layered, style⟩ (layered style groups) =
      some (groups.flatMap fun g => g.2.map (Reader.ruleOf (some g.1))) := by
  let blocks := String.join (groups.map fun g => layerBlock style g.1 g.2)
  have htext : (layered style groups).toList =
      (Reader.head style).toList ++ (blocks.toList ++ Reader.lineEnd style) := by
    cases style <;>
      simp only [layered, layerOrder_eq_head, String.toList_append, List.append_assoc] <;> rfl
  have hnonempty : (layered style groups).isEmpty = false := by
    rw [Bool.eq_false_iff, ne_eq, String.isEmpty_iff, ← String.toList_inj, htext]
    cases style <;> simp [Reader.head]
  have hrun : (blocks.toList ++ Reader.lineEnd style).foldlM (Reader.step d ⟨.layered, style⟩)
      {} = some { text := Reader.lineEnd style,
                  rules := groups.flatMap fun g => g.2.map (Reader.ruleOf (some g.1)) } := by
    rw [List.foldlM_append, Reader.run_layerBlocks hf heffective]
    exact Reader.run_gap Reader.isGap_lineEnd
  have hall : (Reader.lineEnd style).all (· = '\n') = true := by
    cases style <;> rfl
  simp only [Reader.read, hnonempty, htext, Reader.dropPrefix?_append, Bool.false_eq_true, if_false,
    Option.bind_eq_bind, Option.bind_some, hrun, Reader.finish, hall]
  rfl

/-- A composed stylesheet is read as its fragments, whatever the way of writing. -/
theorem read_compose {d : Delimiting} {fragments : List Fragment} (o : OutputOptions)
    (h : ∀ f ∈ canonical fragments, f.Readable d) :
    Reader.read d o (compose fragments o) =
      some ((canonical fragments).map (StyleRule.ofFragment o.layers)) := by
  have hf : ∀ g ∈ groups fragments, ∀ f ∈ g.2, f.Readable d := by
    intro g hg f hf
    obtain ⟨hmem, heffective, _⟩ := mem_groups hg f hf
    exact h f (mem_canonical.2 ⟨hmem, heffective⟩)
  have heffective : ∀ g ∈ groups fragments, ∀ f ∈ g.2, f.isEffective := fun g hg f hf =>
    (mem_groups hg f hf).2.1
  obtain ⟨layers, style⟩ := o
  by_cases hempty : groups fragments = []
  · have hnone := groups_eq_nil_iff.1 hempty
    cases layers <;> simp [compose, hempty, hnone, Reader.read, Reader.finish]
  · have hcompose : (groups fragments).isEmpty = false := by
      simpa using hempty
    cases layers with
    | flattened =>
      simp only [compose, hcompose, Bool.false_eq_true, if_false]
      rw [← flatMap_groups_flattened]
      apply read_flattened
      · exact List.forall_mem_flatMap.2 hf
      · exact List.forall_mem_flatMap.2 heffective
    | layered =>
      simp only [compose, hcompose, Bool.false_eq_true, if_false]
      rw [read_layered style hf heffective, flatMap_groups_layered]

end Stylesheet

/-- Free of what parts rules, properties and values from each other. -/
structure Fragment.Plain (f : Fragment) : Prop where
  selector : FreeOf ['\x7b', '\x7d', '\n'] f.selector.toList
  property : ∀ e ∈ f.declarations.entries, FreeOf [':', ';', '\x7b', '\x7d', '\n'] e.1.toList
  value : ∀ e ∈ f.declarations.entries, FreeOf [';', '\x7b', '\x7d', '\n'] e.2.toList

theorem Fragment.Plain.readable {f : Fragment} (h : f.Plain) : f.Readable .plain where
  selector := by
    apply Reader.inert_of_forall
    intro c hc
    have hfree := h.selector c hc
    simp_all [Reader.isStop, Reader.protects]
  newline := fun hc => h.selector _ hc (by simp)
  declarations := fun e he =>
    { property := by
        apply Reader.inert_of_forall
        intro c hc
        have hfree := h.property e he c hc
        simp_all [Reader.isStop, Reader.protects]
      colon := fun hc => h.property e he _ hc (by simp)
      newline := fun hc => h.property e he _ hc (by simp)
      value := by
        apply Reader.inert_of_forall
        intro c hc
        have hfree := h.value e he c hc
        simp_all [Reader.isStop, Reader.protects] }

namespace Stylesheet

/-- Nothing is lost in any way of writing: a reader finds the canonical list of fragments, the same
rules in all four ways, and so fragments that are written alike agree on it. -/
theorem compose_lossless (fragments : List Fragment) (h : ∀ f ∈ fragments, f.Plain)
    (o : OutputOptions) :
    Reader.read .plain o (compose fragments o) =
      some ((canonical fragments).map (StyleRule.ofFragment o.layers)) ∧
    (∀ o' : OutputOptions,
      (Reader.read .plain o' (compose fragments o')).map (List.map StyleRule.flatten) =
        (Reader.read .plain o (compose fragments o)).map (List.map StyleRule.flatten)) ∧
    (∀ others : List Fragment, (∀ f ∈ others, f.Plain) →
      compose fragments o = compose others o →
      (canonical fragments).map (StyleRule.ofFragment .flattened) =
          (canonical others).map (StyleRule.ofFragment .flattened) ∧
        (o.layers = .layered → canonical fragments = canonical others)) := by
  have hread : ∀ (fs : List Fragment) (o' : OutputOptions), (∀ f ∈ fs, f.Plain) →
      Reader.read .plain o' (compose fs o') =
        some ((canonical fs).map (StyleRule.ofFragment o'.layers)) := by
    intro fs o' hfs
    apply read_compose
    intro f hf
    exact (hfs f (mem_canonical.1 hf).1).readable
  refine ⟨hread fragments o h, ?_, ?_⟩
  · intro o'
    simp [hread fragments _ h, Function.comp_def]
  · intro others hothers hsame
    have hrules : (canonical fragments).map (StyleRule.ofFragment o.layers) =
        (canonical others).map (StyleRule.ofFragment o.layers) := by
      apply Option.some.inj
      rw [← hread fragments o h, ← hread others o hothers, hsame]
    constructor
    · have hflat := congrArg (List.map StyleRule.flatten) hrules
      simpa [Function.comp_def] using hflat
    · intro hlayered
      rw [hlayered] at hrules
      exact StyleRule.ofFragment_layered_injective.list_map hrules

theorem compose_lossless_odd :
    let fragments : List Fragment :=
      [⟨"", .default, .singleton "a" ""⟩, ⟨"p;q", .reset, .singleton "" ": x"⟩,
        ⟨".none", .base, .empty⟩]
    (∀ f ∈ fragments, f.Plain) ∧
      Reader.read .plain ⟨.layered, .compressed⟩ (compose fragments ⟨.layered, .compressed⟩) =
        some [⟨some .reset, "p;q", [("", ": x")]⟩, ⟨some .default, "", [("a", "")]⟩] := by
  intro fragments
  have hplain : ∀ f ∈ fragments, f.Plain := by
    intro f hf
    simp only [fragments, List.mem_cons, List.not_mem_nil, or_false] at hf
    rcases hf with rfl | rfl | rfl <;>
      exact ⟨by decide, by decide, by decide⟩
  refine ⟨hplain, (compose_lossless fragments hplain _).1.trans ?_⟩
  rw [canonical_eq_flatMap]
  rfl

end Stylesheet

end UtilityCss.Css
