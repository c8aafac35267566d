import UtilityCss.Proofs.Css.Groups

/-! Every effective fragment is written out in the stylesheet, whatever else is in it. -/
namespace UtilityCss.Css

def Fragment.text (options : OutputOptions) (f : Fragment) : String :=
  match options.style, options.layers with
  | .compressed, _ => f.compressed
  | .expanded, .layered => f.expanded "  "
  | .expanded, .flattened => f.expanded ""

def IsPart (part whole : String) : Prop := ∃ front back, whole = front ++ part ++ back

variable {part middle whole : String} {parts : List String}

theorem IsPart.trans (h : IsPart part middle) (h' : IsPart middle whole) : IsPart part whole := by
  obtain ⟨front, back, rfl⟩ := h
  obtain ⟨before, after, rfl⟩ := h'
  exact ⟨before ++ front, back ++ after, by simp only [String.append_assoc]⟩

theorem isPart_self (s : String) : IsPart s s :=
  ⟨"", "", by rw [String.empty_append, String.append_empty]⟩

theorem isPart_append (front middle back : String) : IsPart middle (front ++ middle ++ back) :=
  ⟨front, back, rfl⟩

theorem isPart_append_left (front back : String) : IsPart front (front ++ back) :=
  ⟨"", back, by rw [String.empty_append]⟩

theorem isPart_append_right (front back : String) : IsPart back (front ++ back) :=
  ⟨front, "", by rw [String.append_empty]⟩

theorem isPart_join (h : part ∈ parts) : IsPart part (String.join parts) := by
  obtain ⟨front, back, rfl⟩ := List.append_of_mem h
  rw [String.join_append, String.join_cons, ← String.append_assoc]
  exact isPart_append ..

theorem isPart_intercalate (separator : String) (h : part ∈ parts) :
    IsPart part (separator.intercalate parts) := by
  induction parts with
  | nil => nomatch h
  | cons first rest ih =>
    cases rest with
    | nil =>
      obtain rfl := List.mem_singleton.1 h
      rw [String.intercalate_singleton]
      exact isPart_self part
    | cons second rest =>
      rw [String.intercalate_cons_cons]
      obtain rfl | hrest := List.mem_cons.1 h
      · rw [String.append_assoc]
        exact isPart_append_left ..
      · exact (ih hrest).trans (isPart_append_right ..)

namespace Stylesheet

variable {f : Fragment} {fragments : List Fragment}

theorem isPart_rules_compressed (indent : String) (h : f ∈ fragments) :
    IsPart f.compressed (rules .compressed indent fragments) :=
  isPart_join (List.mem_map_of_mem h)

theorem isPart_rules_expanded (indent : String) (h : f ∈ fragments) :
    IsPart (f.expanded indent) (rules .expanded indent fragments) :=
  isPart_intercalate "\n" (List.mem_map_of_mem h)

theorem isPart_layerBlock {style : OutputStyle} {layer : Layer} (h : f ∈ fragments) :
    IsPart (f.text ⟨.layered, style⟩) (layerBlock style layer fragments) := by
  cases style with
  | compressed => exact (isPart_rules_compressed "" h).trans (isPart_append ..)
  | expanded => exact (isPart_rules_expanded "  " h).trans (isPart_append ..)

theorem exists_group (hf : f ∈ fragments) (heffective : f.isEffective) :
    ∃ g ∈ groups fragments, f ∈ g.2 := by
  have hmem : f ∈ ofLayer fragments f.layer := by simp [ofLayer, hf, heffective]
  refine ⟨(f.layer, ofLayer fragments f.layer), ?_, hmem⟩
  rw [groups_eq]
  refine List.mem_filter.2 ⟨List.mem_map_of_mem (mem_all f.layer), ?_⟩
  simp [List.ne_nil_of_mem hmem]

theorem isPart_compose (hf : f ∈ fragments) (heffective : f.isEffective) (options : OutputOptions) :
    IsPart (f.text options) (compose fragments options) := by
  obtain ⟨g, hg, hfg⟩ := exists_group hf heffective
  obtain ⟨layers, style⟩ := options
  have hsome : ¬ (groups fragments).isEmpty := by
    simp [List.ne_nil_of_mem hg]
  rw [compose, if_neg hsome]
  cases layers with
  | flattened =>
    have hmem : f ∈ (groups fragments).flatMap Prod.snd := List.mem_flatMap.2 ⟨g, hg, hfg⟩
    cases style with
    | compressed => exact isPart_rules_compressed "" hmem
    | expanded => exact isPart_rules_expanded "" hmem
  | layered =>
    have hblock : IsPart (f.text ⟨.layered, style⟩) (layerBlock style g.1 g.2) :=
      isPart_layerBlock hfg
    have hjoin := isPart_join (List.mem_map_of_mem (f := fun g => layerBlock style g.1 g.2) hg)
    exact (hblock.trans hjoin).trans (isPart_append ..)

end Stylesheet

end UtilityCss.Css
