import Mathlib.Data.List.Basic
import UtilityCss.Css.Stylesheet

/-!
Stylesheets layer by layer. Fragments are put one after another into the group of their layer, so
the groups hold, for each layer, what is effective of it in the order in which it came. A stylesheet
depends on nothing else, and is made of the same text per layer with layers and without.
-/
namespace UtilityCss.Css.Stylesheet

def ofLayer (fragments : List Fragment) (layer : Layer) : List Fragment :=
  fragments.filter fun f => f.isEffective && f.layer = layer

def occupied (layers : List Layer) (members : Layer → List Fragment) :
    List (Layer × List Fragment) :=
  (layers.map fun layer => (layer, members layer)).filter fun g => !g.2.isEmpty

variable {f : Fragment} {fragments : List Fragment} {layers : List Layer}
  {members : Layer → List Fragment}

theorem occupied_cons (layer : Layer) (rest : List Layer) (members : Layer → List Fragment) :
    occupied (layer :: rest) members =
      if members layer = [] then occupied rest members
      else (layer, members layer) :: occupied rest members := by
  by_cases h : members layer = [] <;> simp [occupied, h]

theorem occupied_congr {others : Layer → List Fragment}
    (h : ∀ layer ∈ layers, others layer = members layer) :
    occupied layers others = occupied layers members := by
  unfold occupied
  congr 1
  apply List.map_congr_left
  intro layer hlayer
  rw [h layer hlayer]

theorem place_of_forall_lt {groups : List (Layer × List Fragment)}
    (h : ∀ g ∈ groups, f.layer.rank < g.1.rank) : place f groups = (f.layer, [f]) :: groups := by
  cases groups with
  | nil => rfl
  | cons g rest =>
    obtain ⟨layer, members⟩ := g
    have hlt : f.layer.rank < layer.rank := h _ List.mem_cons_self
    have hne : f.layer ≠ layer := fun heq => Nat.ne_of_lt hlt (congrArg Layer.rank heq)
    rw [place, if_neg hne, if_pos hlt]

/-- One more fragment is one more member of its layer, whether the layer was in use or not. -/
theorem place_occupied (hsorted : layers.Pairwise fun a b => a.rank < b.rank)
    (hlayer : f.layer ∈ layers) (members : Layer → List Fragment) :
    place f (occupied layers members) =
      occupied layers fun layer => members layer ++ if f.layer = layer then [f] else [] := by
  induction layers with
  | nil => nomatch hlayer
  | cons layer rest ih =>
    obtain ⟨hbelow, hrest⟩ := List.pairwise_cons.1 hsorted
    by_cases heq : f.layer = layer
    · have hsame : (occupied rest fun layer => members layer ++ if f.layer = layer then [f] else []) =
          occupied rest members := by
        apply occupied_congr
        intro other hother
        have hne : f.layer ≠ other := by
          rintro rfl
          exact Nat.ne_of_lt (hbelow _ hother) (congrArg Layer.rank heq.symm)
        rw [if_neg hne, List.append_nil]
      rw [occupied_cons, occupied_cons, if_pos heq, hsame]
      by_cases hempty : members layer = []
      · have hlt : ∀ g ∈ occupied rest members, f.layer.rank < g.1.rank := by
          intro g hg
          obtain ⟨other, hother, rfl⟩ := List.mem_map.1 (List.mem_filter.1 hg).1
          exact heq ▸ hbelow other hother
        simp [hempty, place_of_forall_lt hlt, heq]
      · simp [hempty, place, heq]
    · have hmem : f.layer ∈ rest := (List.mem_cons.1 hlayer).resolve_left heq
      have hnot : ¬ f.layer.rank < layer.rank := Nat.lt_asymm (hbelow _ hmem)
      rw [occupied_cons, occupied_cons, if_neg heq, List.append_nil, ← ih hrest hmem]
      by_cases hempty : members layer = []
      · rw [if_pos hempty, if_pos hempty]
      · rw [if_neg hempty, if_neg hempty, place, if_neg heq, if_neg hnot]

theorem mem_all (layer : Layer) : layer ∈ Layer.all := by
  cases layer <;> decide

theorem ofLayer_cons (f : Fragment) (rest : List Fragment) (layer : Layer) :
    ofLayer (f :: rest) layer =
      (if f.isEffective ∧ f.layer = layer then [f] else []) ++ ofLayer rest layer := by
  by_cases h : f.isEffective ∧ f.layer = layer
  · simp [ofLayer, h]
  · rw [if_neg h, List.nil_append]
    apply List.filter_cons_of_neg
    simpa using h

theorem foldl_place_occupied (fragments : List Fragment) (members : Layer → List Fragment) :
    fragments.foldl (fun groups f => if f.isEffective then place f groups else groups)
        (occupied Layer.all members) =
      occupied Layer.all fun layer => members layer ++ ofLayer fragments layer := by
  induction fragments generalizing members with
  | nil => simp [ofLayer]
  | cons f rest ih =>
    rw [List.foldl_cons]
    by_cases heffective : f.isEffective
    · rw [if_pos heffective, place_occupied (by decide) (mem_all f.layer), ih]
      apply occupied_congr
      intro layer _
      simp [ofLayer_cons, heffective]
    · rw [if_neg heffective, ih]
      apply occupied_congr
      intro layer _
      simp [ofLayer_cons, heffective]

theorem groups_eq (fragments : List Fragment) :
    groups fragments = occupied Layer.all (ofLayer fragments) :=
  foldl_place_occupied fragments fun _ => []

theorem mem_groups {g : Layer × List Fragment} (hg : g ∈ groups fragments) :
    ∀ f ∈ g.2, f ∈ fragments ∧ f.isEffective ∧ f.layer = g.1 := by
  intro f hf
  rw [groups_eq] at hg
  obtain ⟨layer, _, rfl⟩ := List.mem_map.1 (List.mem_filter.1 hg).1
  simpa [ofLayer] using hf

theorem flatMap_occupied {β : Type} {g : Layer × List Fragment → List β}
    (hempty : ∀ layer, g (layer, []) = []) (layers : List Layer)
    (members : Layer → List Fragment) :
    (occupied layers members).flatMap g = layers.flatMap fun layer => g (layer, members layer) := by
  induction layers with
  | nil => rfl
  | cons layer rest ih =>
    rw [occupied_cons, List.flatMap_cons]
    by_cases h : members layer = []
    · rw [if_pos h, ih, h, hempty, List.nil_append]
    · rw [if_neg h, List.flatMap_cons, ih]

theorem flatMap_groups {β : Type} {g : Layer × List Fragment → List β}
    (hempty : ∀ layer, g (layer, []) = []) (fragments : List Fragment) :
    (groups fragments).flatMap g =
      Layer.all.flatMap fun layer => g (layer, ofLayer fragments layer) := by
  rw [groups_eq, flatMap_occupied hempty]

/-- All that a stylesheet is made from are the groups. -/
theorem compose_congr {others : List Fragment}
    (h : ∀ layer, ofLayer others layer = ofLayer fragments layer) (options : OutputOptions) :
    compose others options = compose fragments options := by
  have hgroups : groups others = groups fragments := by
    rw [groups_eq, groups_eq]
    exact occupied_congr fun layer _ => h layer
  rw [compose, compose, hgroups]

def layerText (fragments : List Fragment) (layer : Layer) : String :=
  compose (fragments.filter fun f => f.layer = layer) ⟨.flattened, .compressed⟩

theorem rules_compressed (indent : String) (fragments : List Fragment) :
    rules .compressed indent fragments = String.join (fragments.map Fragment.compressed) := rfl

theorem compose_flattened (fragments : List Fragment) :
    compose fragments ⟨.flattened, .compressed⟩ =
      String.join ((Layer.all.flatMap (ofLayer fragments)).map Fragment.compressed) := by
  have hflat : (groups fragments).flatMap Prod.snd = Layer.all.flatMap (ofLayer fragments) :=
    flatMap_groups (fun _ => rfl) fragments
  rw [compose, ← hflat]
  by_cases hempty : groups fragments = []
  · simp [hempty]
  · simp [hempty, rules_compressed]

theorem ofLayer_filter (fragments : List Fragment) (layer other : Layer) :
    ofLayer (fragments.filter fun f => f.layer = layer) other =
      if other = layer then ofLayer fragments layer else [] := by
  by_cases h : other = layer
  · subst h
    rw [if_pos rfl, ofLayer, List.filter_filter]
    apply List.filter_congr
    intro f _
    by_cases hlayer : f.layer = other <;> simp [hlayer]
  · rw [if_neg h, ofLayer, List.filter_filter, List.filter_eq_nil_iff]
    intro f _ hboth
    simp only [Bool.and_eq_true, decide_eq_true_eq] at hboth
    obtain ⟨⟨_, hother⟩, hlayer⟩ := hboth
    exact h (hother.symm.trans hlayer)

theorem layerText_eq (fragments : List Fragment) (layer : Layer) :
    layerText fragments layer =
      String.join ((ofLayer fragments layer).map Fragment.compressed) := by
  rw [layerText, compose_flattened]
  cases layer <;> simp [Layer.all, ofLayer_filter]

theorem layerBlock_compressed (fragments : List Fragment) (layer : Layer) :
    layerBlock .compressed layer (ofLayer fragments layer) =
      "@layer " ++ layer.name ++ "\x7b" ++ layerText fragments layer ++ "\x7d" := by
  rw [layerBlock, rules_compressed, layerText_eq]

def isOccupied (fragments : List Fragment) (layer : Layer) : Bool :=
  fragments.any fun f => f.isEffective && f.layer = layer

theorem isEmpty_ofLayer (fragments : List Fragment) (layer : Layer) :
    (ofLayer fragments layer).isEmpty = !isOccupied fragments layer := by
  rw [Bool.eq_iff_iff]
  simp [ofLayer, isOccupied, List.filter_eq_nil_iff]

theorem groups_eq_map (fragments : List Fragment) :
    groups fragments =
      (Layer.all.filter (isOccupied fragments)).map fun layer => (layer, ofLayer fragments layer) := by
  rw [groups_eq, occupied, List.filter_map]
  congr 1
  apply List.filter_congr
  intro layer _
  simp [isEmpty_ofLayer]

theorem isEmpty_groups (fragments : List Fragment) :
    (groups fragments).isEmpty = !fragments.any Fragment.isEffective := by
  rw [Bool.eq_iff_iff, groups_eq_map]
  simp only [List.isEmpty_map, List.isEmpty_iff, List.filter_eq_nil_iff, isOccupied, List.any_eq_true,
    Bool.and_eq_true, decide_eq_true_eq, Bool.not_eq_true', List.any_eq_false]
  constructor
  · intro h f hf heffective
    exact h f.layer (mem_all f.layer) ⟨f, hf, heffective, rfl⟩
  · rintro h layer - ⟨f, hf, heffective, -⟩
    exact h f hf heffective

/-- A stylesheet depends on the fragments of each layer alone, and has the same text for a layer with
layers and without: without, these texts follow each other, and with layers each of them that is not
empty stands in a block of its own behind the order of all four. -/
theorem compose_by_layer (fragments : List Fragment) :
    (∀ others : List Fragment, (∀ layer, ofLayer others layer = ofLayer fragments layer) →
      ∀ options, compose others options = compose fragments options) ∧
    compose fragments ⟨.flattened, .compressed⟩ =
      layerText fragments .reset ++ layerText fragments .base ++ layerText fragments .components ++
        layerText fragments .default ∧
    compose fragments ⟨.layered, .compressed⟩ =
      if fragments.any Fragment.isEffective then
        "@layer reset,base,components,default;" ++
          String.join ((Layer.all.filter (isOccupied fragments)).map fun layer =>
            "@layer " ++ layer.name ++ "\x7b" ++ layerText fragments layer ++ "\x7d")
      else "" := by
  refine ⟨fun others h options => compose_congr h options, ?_, ?_⟩
  · rw [compose_flattened]
    simp [Layer.all, layerText_eq, String.join_append, String.append_assoc]
  · rw [compose, isEmpty_groups]
    by_cases hany : fragments.any Fragment.isEffective
    · have hblocks : (groups fragments).map (fun g => layerBlock .compressed g.1 g.2) =
          (Layer.all.filter (isOccupied fragments)).map fun layer =>
            "@layer " ++ layer.name ++ "\x7b" ++ layerText fragments layer ++ "\x7d" := by
        rw [groups_eq_map, List.map_map]
        exact List.map_congr_left fun layer _ => layerBlock_compressed fragments layer
      have horder : layerOrder .compressed = "@layer reset,base,components,default;" := rfl
      simp only [hany, layered, hblocks, horder, String.append_empty]
      rfl
    · simp [hany]

/-- Layers that alternate, an effective fragment between empty ones, and text that looks like the end
of a rule. -/
theorem compose_by_layer_interleaved :
    let fragments : List Fragment :=
      [⟨"\x7d", .default, .singleton "a" "1"⟩, ⟨".none", .base, .empty⟩,
        ⟨"p", .reset, .singleton "b" ";"⟩, ⟨"q", .default, .singleton "c" "2"⟩]
    let others : List Fragment :=
      [⟨"p", .reset, .singleton "b" ";"⟩, ⟨"\x7d", .default, .singleton "a" "1"⟩,
        ⟨"q", .default, .singleton "c" "2"⟩]
    (∀ layer, ofLayer others layer = ofLayer fragments layer) ∧
      ∀ options, compose others options = compose fragments options := by
  intro fragments others
  have hsame : ∀ layer, ofLayer others layer = ofLayer fragments layer := by
    intro layer
    cases layer <;> decide
  exact ⟨hsame, (compose_by_layer fragments).1 others hsame⟩

end UtilityCss.Css.Stylesheet
