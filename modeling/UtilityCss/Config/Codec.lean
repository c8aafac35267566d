import UtilityCss.Config.Basic
import UtilityCss.Data.Decode

/-! The configuration as data. Fields that are left out take their defaults. -/
namespace UtilityCss

open Data (Dialect)

namespace Css

def LayerMode.name : LayerMode → String
  | layered => "layered"
  | flattened => "flattened"

def LayerMode.ofName? : String → Option LayerMode
  | "layered" => some layered
  | "flattened" => some flattened
  | _ => none

@[simp] theorem LayerMode.ofName?_name (m : LayerMode) : ofName? m.name = some m := by
  cases m <;> rfl

def OutputStyle.name : OutputStyle → String
  | expanded => "expanded"
  | compressed => "compressed"

def OutputStyle.ofName? : String → Option OutputStyle
  | "expanded" => some expanded
  | "compressed" => some compressed
  | _ => none

@[simp] theorem OutputStyle.ofName?_name (s : OutputStyle) : ofName? s.name = some s := by
  cases s <;> rfl

namespace OutputOptions

def encode (o : OutputOptions) : Data :=
  .ofFields [("layers", .ofString o.layers.name), ("style", .ofString o.style.name)]

def decode (d : Dialect) (value : Data) : Option OutputOptions := do
  let fields ← value.fields? d ["layers", "style"]
  return {
    layers := ← fields.optional "layers" .layered fun v => (v.choice? d).bind LayerMode.ofName?
    style := ← fields.optional "style" .expanded fun v => (v.choice? d).bind OutputStyle.ofName? }

end OutputOptions

def Layer.decode (d : Dialect) (value : Data) : Option Layer := (value.choice? d).bind Layer.ofName?

end Css

namespace Theme

def MissingGroups.name : MissingGroups → String
  | skipGroup => "skip-group"
  | skipEmitter => "skip-emitter"

def MissingGroups.ofName? : String → Option MissingGroups
  | "skip-group" => some skipGroup
  | "skip-emitter" => some skipEmitter
  | _ => none

@[simp] theorem MissingGroups.ofName?_name (m : MissingGroups) : ofName? m.name = some m := by
  cases m <;> rfl

namespace PropertyGroup

def encode (g : PropertyGroup) : Data :=
  .ofFields [("group", .ofString g.group), ("prefix", .ofString g.stem)]

def decode (d : Dialect) (value : Data) : Option PropertyGroup := do
  let fields ← value.fields? d ["group", "prefix"]
  return ⟨← fields.required "group" Data.string?, ← fields.required "prefix" Data.string?⟩

end PropertyGroup

namespace UtilityFamily

def encode (f : UtilityFamily) : Data :=
  .ofFields [("group", .ofString f.group), ("prefix", .ofString f.stem),
    ("property", .ofString f.property)]

def decode (d : Dialect) (value : Data) : Option UtilityFamily := do
  let fields ← value.fields? d ["group", "prefix", "property"]
  return ⟨← fields.required "group" Data.string?, ← fields.required "prefix" Data.string?,
    ← fields.required "property" Data.string?⟩

end UtilityFamily

end Theme

namespace RuleSpec

/-- The layer is written only if there is one. -/
def encode (s : RuleSpec) : Data :=
  .ofFields ([("name", .ofString s.name), ("pattern", .ofString s.pattern),
    ("property", .ofString s.property), ("value", .ofString s.value)] ++
    s.layer.toList.map fun l => ("layer", .ofString l.name))

def decode (d : Dialect) (value : Data) : Option RuleSpec := do
  let fields ← value.fields? d ["name", "pattern", "property", "value", "layer"]
  return {
    name := ← fields.required "name" Data.string?
    pattern := ← fields.required "pattern" Data.string?
    property := ← fields.required "property" Data.string?
    value := ← fields.required "value" Data.string?
    layer := ← fields.optional "layer" none (Data.nullable? (Css.Layer.decode d)) }

end RuleSpec

namespace StyleConfig

def fieldNames : List String :=
  ["custom-properties", "utilities", "rules", "missing-groups", "output"]

def fields (c : StyleConfig) : Data.Fields :=
  [("custom-properties", .list (c.customProperties.map Theme.PropertyGroup.encode)),
    ("utilities", .list (c.utilities.map Theme.UtilityFamily.encode)),
    ("rules", .list (c.rules.map RuleSpec.encode)),
    ("missing-groups", .ofString c.missingGroups.name),
    ("output", c.output.encode)]

def encode (c : StyleConfig) : Data := .ofFields c.fields

def ofFields? (d : Dialect) (fields : Data.Fields) : Option StyleConfig := do
  let default : StyleConfig := {}
  return {
    customProperties := ← fields.optional "custom-properties" default.customProperties
      (Data.list? (Theme.PropertyGroup.decode d))
    utilities := ← fields.optional "utilities" default.utilities
      (Data.list? (Theme.UtilityFamily.decode d))
    rules := ← fields.optional "rules" default.rules (Data.list? (RuleSpec.decode d))
    missingGroups := ← fields.optional "missing-groups" default.missingGroups fun v =>
      (v.choice? d).bind Theme.MissingGroups.ofName?
    output := ← fields.optional "output" default.output (Css.OutputOptions.decode d) }

def decode (d : Dialect) (value : Data) : Option StyleConfig := do
  ofFields? d (← value.fields? d fieldNames)

end StyleConfig

end UtilityCss
