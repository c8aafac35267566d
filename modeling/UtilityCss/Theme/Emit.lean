import UtilityCss.Css.Declarations
import UtilityCss.Css.Identifier
import UtilityCss.Theme.Registry

/-!
What a theme gives to a stylesheet by itself: custom properties on the root element, and utility
classes that set one property to one token.
-/
namespace UtilityCss.Theme

open Css (Declarations Fragment Layer)

/-- A token group whose tokens become custom properties with a common beginning. -/
structure PropertyGroup where
  group : String
  stem : String
  deriving DecidableEq, Repr, Inhabited

namespace PropertyGroup

def defaults : List PropertyGroup :=
  [⟨GroupName.colors, "color"⟩, ⟨GroupName.fontFamily, "font"⟩, ⟨GroupName.fontSize, "size"⟩,
    ⟨GroupName.fontWeight, "font"⟩, ⟨GroupName.lineHeight, "leading"⟩,
    ⟨GroupName.spacing, "space"⟩]

def propertyName (g : PropertyGroup) (token : String) : String := "--" ++ g.stem ++ "-" ++ token

/-- One custom property per token, after those that are there already. -/
def declare (properties : Declarations) (g : PropertyGroup) (tokens : TokenGroup) : Declarations :=
  tokens.entries.foldl (fun ps (token, value) => ps.insert (g.propertyName token) value.css)
    properties

end PropertyGroup

/-- A family of utility classes: one class per token of a group, all setting one property. -/
structure UtilityFamily where
  group : String
  stem : String
  property : String
  deriving DecidableEq, Repr, Inhabited

namespace UtilityFamily

def defaults : List UtilityFamily :=
  [⟨GroupName.spacing, "flow-space", "--flow-space"⟩,
    ⟨GroupName.spacing, "region-space", "--region-space"⟩,
    ⟨GroupName.spacing, "gutter", "--gutter"⟩]

def selector (family : UtilityFamily) (token : String) : String :=
  Css.Identifier.classSelector (family.stem ++ "-" ++ token)

def fragment (family : UtilityFamily) (token : String) (value : TokenValue) : Fragment where
  selector := family.selector token
  layer := .components
  declarations := OrderedMap.singleton family.property value.css

def fragments (family : UtilityFamily) (tokens : TokenGroup) : List Fragment :=
  tokens.entries.map fun (token, value) => family.fragment token value

end UtilityFamily

/-- Goes through references to groups and adds what each of the groups gives. A group that is
missing is passed over; if the emitter depends on it, the loop ends there with `nothing`. -/
def emitEach {α σ : Type} (registry : Registry) (policy : MissingGroups) (group : α → String)
    (add : σ → α → TokenGroup → σ) (nothing : σ) : σ → List α → σ
  | emitted, [] => emitted
  | emitted, ref :: refs =>
    match registry.get? (group ref) with
    | some tokens => emitEach registry policy group add nothing (add emitted ref tokens) refs
    | none =>
      match policy with
      | .skipGroup => emitEach registry policy group add nothing emitted refs
      | .skipEmitter => nothing

def customProperties (registry : Registry) (groups : List PropertyGroup)
    (policy : MissingGroups) : Declarations :=
  emitEach registry policy PropertyGroup.group PropertyGroup.declare .empty .empty groups

def utilities (registry : Registry) (families : List UtilityFamily)
    (policy : MissingGroups) : List Fragment :=
  emitEach registry policy UtilityFamily.group
    (fun fragments family tokens => fragments ++ family.fragments tokens) [] [] families

def rootFragment (properties : Declarations) : Option Fragment :=
  if properties.isEmpty then none else some ⟨":root", .base, properties⟩

end UtilityCss.Theme
