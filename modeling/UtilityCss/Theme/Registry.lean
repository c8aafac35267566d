import UtilityCss.OrderedMap

/-! Design tokens: named values, gathered in named groups. -/
namespace UtilityCss.Theme

inductive TokenValue where
  | scalar (text : String)
  | list (items : List String)
  deriving DecidableEq, Repr, Inhabited

/-- The value as it stands in a declaration; the items of a list are parted by commas. -/
def TokenValue.css : TokenValue → String
  | .scalar text => text
  | .list items => ", ".intercalate items

abbrev TokenGroup := OrderedMap TokenValue

abbrev Registry := OrderedMap TokenGroup

namespace GroupName

def colors : String := "colors"
def fontFamily : String := "fontFamily"
def fontSize : String := "fontSize"
def fontWeight : String := "fontWeight"
def lineHeight : String := "lineHeight"
def spacing : String := "spacing"

end GroupName

/-- What an emitter does about a group that the registry lacks. -/
inductive MissingGroups where
  | skipGroup
  | skipEmitter
  deriving DecidableEq, Repr, Inhabited

end UtilityCss.Theme
