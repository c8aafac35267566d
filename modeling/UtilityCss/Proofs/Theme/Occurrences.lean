import UtilityCss.Proofs.Theme.Names

/-!
Custom properties as a whole. Tokens may come to one name, within a stem or across stems, and a group
may be listed again: such a name is declared once, where it came first, with the value that it had
last.
-/
namespace UtilityCss.Theme

variable {registry : Registry} {groups : List PropertyGroup}

theorem keys_customProperties (registry : Registry) (groups : List PropertyGroup) :
    (customProperties registry groups .skipGroup).keys =
      ((listed registry groups).map Listed.property).eraseDups := by
  rw [customProperties_skipGroup, OrderedMap.keys_foldl_insert_empty]

theorem get?_customProperties_last {front back : List Listed} {x : Listed}
    (hlisted : listed registry groups = front ++ x :: back)
    (hlast : ∀ y ∈ back, y.property ≠ x.property) :
    (customProperties registry groups .skipGroup).get? x.property = some x.value.css := by
  rw [customProperties_skipGroup, hlisted, OrderedMap.get?_foldl_insert_last hlast]

theorem customProperties_of_missing {g : PropertyGroup} (hg : g ∈ groups)
    (hmissing : registry.get? g.group = none) :
    customProperties registry groups .skipEmitter = .empty :=
  emitEach_of_missing hg hmissing _

/-- Every property is declared once, in the order in which the names first come up, with the value
of the token that comes last under its name. Nothing at all is declared where the whole emission
depends on a group that is missing. -/
theorem customProperties_once_with_last_value (registry : Registry) (groups : List PropertyGroup) :
    let properties := customProperties registry groups .skipGroup
    (properties.keys.Nodup ∧
      properties.keys = ((listed registry groups).map Listed.property).eraseDups) ∧
    (∀ front x back, listed registry groups = front ++ x :: back →
      (∀ y ∈ back, y.property ≠ x.property) →
      properties.get? x.property = some x.value.css) ∧
    ((∀ g ∈ groups, (registry.get? g.group).isSome) →
      customProperties registry groups .skipEmitter = properties) ∧
    (∀ g ∈ groups, registry.get? g.group = none →
      customProperties registry groups .skipEmitter = .empty) := by
  intro properties
  refine ⟨⟨properties.nodup, keys_customProperties registry groups⟩, ?_, ?_, ?_⟩
  · intro front x back hlisted hlast
    exact get?_customProperties_last hlisted hlast
  · intro hpresent
    exact customProperties_of_present hpresent .skipEmitter
  · intro g hg hmissing
    exact customProperties_of_missing hg hmissing

theorem customProperties_once_with_last_value_repeated :
    let registry : Registry := .ofList
      [("weights", .ofList [("base", .scalar "400"), ("bold", .scalar "700")]),
        ("fonts", .ofList [("size-base", .scalar "serif"), ("base", .list ["Inter", "serif"])]),
        ("sizes", .singleton "base" (.scalar "1rem"))]
    let groups : List PropertyGroup :=
      [⟨"weights", "font"⟩, ⟨"fonts", "font"⟩, ⟨"none", "font"⟩, ⟨"weights", "font"⟩,
        ⟨"sizes", "font-size"⟩]
    let properties := customProperties registry groups .skipGroup
    properties.keys = ["--font-base", "--font-bold", "--font-size-base"] ∧
      properties.get? "--font-base" = some "400" ∧
      properties.get? "--font-size-base" = some "1rem" ∧
      customProperties registry groups .skipEmitter = .empty ∧
      customProperties registry [⟨"weights", "font"⟩] .skipEmitter =
        customProperties registry [⟨"weights", "font"⟩] .skipGroup := by
  intro registry groups properties
  obtain ⟨⟨-, hkeys⟩, hlast, -, hmissing⟩ :=
    customProperties_once_with_last_value registry groups
  obtain ⟨-, -, hpresent, -⟩ :=
    customProperties_once_with_last_value registry [⟨"weights", "font"⟩]
  refine ⟨hkeys.trans (by decide), ?_, ?_, hmissing ⟨"none", "font"⟩ (by decide) (by decide),
    hpresent (by decide)⟩
  · exact hlast ((listed registry groups).take 4) ⟨⟨"weights", "font"⟩, "base", .scalar "400"⟩
      ((listed registry groups).drop 5) (by rfl) (by decide)
  · exact hlast ((listed registry groups).take 6) ⟨⟨"sizes", "font-size"⟩, "base", .scalar "1rem"⟩
      [] (by rfl) (by decide)

end UtilityCss.Theme
