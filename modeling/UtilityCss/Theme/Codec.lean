import UtilityCss.Data.Decode
import UtilityCss.Data.Json
import UtilityCss.Theme.Registry

/-! Token values, groups and registries as data. -/
namespace UtilityCss.Theme

def TokenValue.decode : Data → Option TokenValue
  | .text s => s.map scalar
  | value => (value.list? Data.string?).map list

def TokenGroup.decode (value : Data) : Option TokenGroup :=
  (value.pairs? TokenValue.decode).map OrderedMap.ofList

def Registry.decode (value : Data) : Option Registry :=
  (value.pairs? TokenGroup.decode).map OrderedMap.ofList

def Registry.ofJson? (text : String) : Option Registry := (Data.ofJson? text).bind Registry.decode

end UtilityCss.Theme
