import UtilityCss.OrderedMap
import UtilityCss.Css.Layer

/-! Declaration blocks, and fragments: a block with its selector and layer. -/
namespace UtilityCss.Css

/-- Property values in the order in which the properties were first set. -/
abbrev Declarations := OrderedMap String

namespace Declarations

/-- The block as the text of a `style` attribute. -/
def inline (block : Declarations) : String :=
  String.join (block.entries.map fun (property, value) => property ++ ":" ++ value ++ ";")

end Declarations

structure Fragment where
  selector : String
  layer : Layer
  declarations : Declarations
  deriving DecidableEq, Repr

end UtilityCss.Css
