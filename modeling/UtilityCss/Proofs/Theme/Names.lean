import UtilityCss.Proofs.OrderedMap
import UtilityCss.Proofs.Theme.Missing

/-!
Whether every token keeps a custom property to itself. A property is named for a stem and a token
with a dash between them, and either may hold dashes of its own: the token `size-base` under the
stem `font` and the token `base` under the stem `font-size` have one name.
-/
namespace UtilityCss.Theme

open Css (Declarations)

structure Listed where
  group : PropertyGroup
  token : String
  value : TokenValue

def listed (registry : Registry) (groups : List PropertyGroup) : List Listed :=
  groups.flatMap fun g => match registry.get? g.group with
    | some tokens => tokens.entries.map fun (token, value) => ⟨g, token, value⟩
    | none => []

namespace Listed

def key (x : Listed) : String × String := (x.group.stem, x.token)

def property (x : Listed) : String := x.group.propertyName x.token

/-- The other stem goes on behind this one, with what this token begins with. -/
def ReachesInto (x y : Listed) : Prop :=
  ∃ d, y.group.stem = x.group.stem ++ "-" ++ d ∧ x.token = d ++ "-" ++ y.token

end Listed

/-- Every listed token has a declaration to itself. -/
structure IsComplete (registry : Registry) (groups : List PropertyGroup)
    (properties : Declarations) : Prop where
  size : properties.size = (listed registry groups).length
  get? : ∀ g ∈ groups, ∀ tokens, registry.get? g.group = some tokens → ∀ token value,
    tokens.get? token = some value → properties.get? (g.propertyName token) = some value.css

/-- Where two texts are joined by the same character and come out the same, they are cut at one
place, or one is cut inside the other's end. -/
theorem append_cons_eq_append_cons_iff {c : Char} {p q n m : List Char} :
    p ++ c :: n = q ++ c :: m ↔ (p = q ∧ n = m) ∨ (∃ d, q = p ++ c :: d ∧ n = d ++ c :: m) ∨
      ∃ d, p = q ++ c :: d ∧ m = d ++ c :: n := by
  constructor
  · intro h
    obtain ⟨x, hq, hx⟩ | ⟨x, hp, hx⟩ := List.append_eq_append_iff.1 h
    · cases x with
      | nil => simp_all
      | cons a d =>
        obtain ⟨rfl, rfl⟩ := List.cons.inj hx
        exact .inr (.inl ⟨d, hq, rfl⟩)
    · cases x with
      | nil => simp_all
      | cons a d =>
        obtain ⟨rfl, rfl⟩ := List.cons.inj hx
        exact .inr (.inr ⟨d, hp, rfl⟩)
  · rintro (⟨rfl, rfl⟩ | ⟨d, rfl, rfl⟩ | ⟨d, rfl, rfl⟩)
    · rfl
    · simp
    · simp

namespace Listed

variable {x y : Listed}

theorem reachesInto_iff : x.ReachesInto y ↔ ∃ d : List Char,
    y.group.stem.toList = x.group.stem.toList ++ '-' :: d ∧
      x.token.toList = d ++ '-' :: y.token.toList := by
  constructor
  · rintro ⟨d, hstem, htoken⟩
    exact ⟨d.toList, by simp [hstem], by simp [htoken]⟩
  · rintro ⟨d, hstem, htoken⟩
    exact ⟨String.ofList d, by simp [← String.toList_inj, hstem],
      by simp [← String.toList_inj, htoken]⟩

theorem property_eq_iff :
    x.property = y.property ↔ x.key = y.key ∨ x.ReachesInto y ∨ y.ReachesInto x := by
  have hproperty : x.property = y.property ↔ x.group.stem.toList ++ '-' :: x.token.toList =
      y.group.stem.toList ++ '-' :: y.token.toList := by
    simp [property, PropertyGroup.propertyName, ← String.toList_inj]
  have hkey : x.key = y.key ↔
      x.group.stem.toList = y.group.stem.toList ∧ x.token.toList = y.token.toList := by
    simp [key, String.toList_inj]
  rw [hproperty, hkey, reachesInto_iff, reachesInto_iff, append_cons_eq_append_cons_iff]

end Listed

variable {registry : Registry} {groups : List PropertyGroup}

theorem nodup_property_iff (hdistinct : ((listed registry groups).map Listed.key).Nodup) :
    ((listed registry groups).map Listed.property).Nodup ↔
      (listed registry groups).Pairwise fun x y => ¬ (x.ReachesInto y ∨ y.ReachesInto x) := by
  rw [List.Nodup, List.pairwise_map] at hdistinct ⊢
  constructor
  · intro h
    exact h.imp fun hne hreaches => hne (Listed.property_eq_iff.2 (.inr hreaches))
  · intro h
    exact (hdistinct.and h).imp fun ⟨hkey, hreaches⟩ heq =>
      (Listed.property_eq_iff.1 heq).elim hkey hreaches

theorem customProperties_skipGroup (registry : Registry) (groups : List PropertyGroup) :
    customProperties registry groups .skipGroup =
      (listed registry groups).foldl (fun m x => m.insert x.property x.value.css) .empty := by
  rw [customProperties_eq_foldl, resolve, listed]
  generalize OrderedMap.empty = properties
  induction groups generalizing properties with
  | nil => rfl
  | cons g rest ih =>
    rw [List.filterMap_cons, List.flatMap_cons, List.foldl_append]
    cases hg : registry.get? g.group with
    | none => exact ih properties
    | some tokens =>
      simp only [Option.map_some, List.foldl_cons, List.foldl_map]
      exact ih _

theorem customProperties_of_present (hpresent : ∀ g ∈ groups, (registry.get? g.group).isSome)
    (policy : MissingGroups) :
    customProperties registry groups policy = customProperties registry groups .skipGroup :=
  emitEach_of_present hpresent _

theorem customProperties_eq (hpresent : ∀ g ∈ groups, (registry.get? g.group).isSome)
    (policy : MissingGroups) : customProperties registry groups policy =
      (listed registry groups).foldl (fun m x => m.insert x.property x.value.css) .empty := by
  rw [customProperties_of_present hpresent, customProperties_skipGroup]

theorem isComplete_iff (hpresent : ∀ g ∈ groups, (registry.get? g.group).isSome)
    (policy : MissingGroups) :
    IsComplete registry groups (customProperties registry groups policy) ↔
      ((listed registry groups).map Listed.property).Nodup := by
  rw [customProperties_eq hpresent]
  constructor
  · intro h
    exact OrderedMap.size_foldl_insert_iff.1 h.size
  · intro hnodup
    refine ⟨OrderedMap.size_foldl_insert_iff.2 hnodup, ?_⟩
    intro g hg tokens htokens token value hvalue
    have hmem : ⟨g, token, value⟩ ∈ listed registry groups := by
      refine List.mem_flatMap.2 ⟨g, hg, ?_⟩
      rw [htokens]
      exact List.mem_map_of_mem (OrderedMap.mem_of_get? hvalue)
    apply OrderedMap.get?_of_mem
    rw [OrderedMap.entries_foldl_insert hnodup fun _ _ => List.not_mem_nil]
    exact List.mem_map_of_mem (f := fun x : Listed => (x.property, x.value.css)) hmem

theorem isComplete_of_plain (hplain : ∀ g ∈ groups, '-' ∉ g.stem.toList)
    (hpresent : ∀ g ∈ groups, (registry.get? g.group).isSome)
    (hdistinct : ((listed registry groups).map Listed.key).Nodup) (policy : MissingGroups) :
    IsComplete registry groups (customProperties registry groups policy) := by
  rw [isComplete_iff hpresent, nodup_property_iff hdistinct]
  have hgroup : ∀ x ∈ listed registry groups, x.group ∈ groups := by
    intro x hx
    obtain ⟨g, hg, hx⟩ := List.mem_flatMap.1 hx
    split at hx
    · obtain ⟨e, -, rfl⟩ := List.mem_map.1 hx
      exact hg
    · nomatch hx
  have hnot : ∀ x y : Listed, y ∈ listed registry groups → ¬ x.ReachesInto y := by
    intro x y hy hreaches
    obtain ⟨d, hstem, -⟩ := Listed.reachesInto_iff.1 hreaches
    exact hplain y.group (hgroup y hy) (by simp [hstem])
  exact List.pairwise_of_forall_mem_list fun x hx y hy => not_or.2 ⟨hnot x y hy, hnot y x hx⟩

example : ∀ g ∈ PropertyGroup.defaults, '-' ∉ g.stem.toList := by decide

/-- Tokens that are listed under different stems or names overwrite each other only where one of
them reaches into the stem of the other. -/
theorem customProperties_complete_iff (hpresent : ∀ g ∈ groups, (registry.get? g.group).isSome)
    (hdistinct : ((listed registry groups).map Listed.key).Nodup) (policy : MissingGroups) :
    IsComplete registry groups (customProperties registry groups policy) ↔
      (listed registry groups).Pairwise fun x y => ¬ (x.ReachesInto y ∨ y.ReachesInto x) :=
  (isComplete_iff hpresent policy).trans (nodup_property_iff hdistinct)

theorem customProperties_complete_dashes :
    let registry : Registry := .ofList [("fonts", .singleton "base-size" (.scalar "1rem")),
      ("sizes", .singleton "base" (.list ["2rem", "3rem"]))]
    let groups : List PropertyGroup := [⟨"fonts", "font"⟩, ⟨"sizes", "font-size"⟩]
    ∀ policy, IsComplete registry groups (customProperties registry groups policy) := by
  intro registry groups policy
  have hpresent : ∀ g ∈ groups, (registry.get? g.group).isSome := by decide
  have hdistinct : ((listed registry groups).map Listed.key).Nodup := by decide
  apply (customProperties_complete_iff hpresent hdistinct policy).2
  exact (nodup_property_iff hdistinct).1 (by decide)

/-- The stems differ and so do the tokens, and still there is one declaration for both. -/
theorem customProperties_overwrites :
    let registry : Registry := .ofList [("fonts", .singleton "size-base" (.scalar "1")),
      ("fontSize", .singleton "base" (.scalar "2"))]
    let groups : List PropertyGroup := [⟨"fonts", "font"⟩, ⟨"fontSize", "font-size"⟩]
    (∀ g ∈ groups, (registry.get? g.group).isSome) ∧
      ((listed registry groups).map Listed.key).Nodup ∧
      ∀ policy, (customProperties registry groups policy).entries = [("--font-size-base", "2")] ∧
        ¬ IsComplete registry groups (customProperties registry groups policy) := by
  refine ⟨by decide, by decide, fun policy => ?_⟩
  cases policy with
  | skipGroup => exact ⟨by decide, fun h => absurd h.size (by decide)⟩
  | skipEmitter => exact ⟨by decide, fun h => absurd h.size (by decide)⟩

end UtilityCss.Theme
