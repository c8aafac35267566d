import UtilityCss.Token.Item

/-!
Fluid sizes: a size grows in proportion to the width of the viewport, from its smallest value at
the smallest viewport to its largest at the largest, and stays the same beyond.
-/
namespace UtilityCss.Token

/-- Viewport widths in pixels. -/
structure Viewports (α : Type := Float) where
  min : α
  mid : Option α := none
  max : α
  deriving Inhabited

namespace Viewports

def default : Viewports := { min := 320, max := 1350 }

def decode (value : Data) : Option Viewports := do
  let fields ← value.fields? .json ["min", "mid", "max"]
  return {
    min := ← fields.required "min" Data.number?
    mid := ← fields.optional "mid" none (Data.nullable? Data.number?)
    max := ← fields.required "max" Data.number? }

def ofJson? (text : String) : Option Viewports := (Data.ofJson? text).bind decode

end Viewports

inductive FluidError (α : Type := Float) where
  | invalidViewports (min max : α)
  | missingBounds (name : String)
  deriving Inhabited

def FluidError.message : FluidError → String
  | invalidViewports min max =>
    "viewport max (" ++ Decimal.plain max ++ "px) must be greater than min (" ++
      Decimal.plain min ++ "px)"
  | missingBounds name => "fluid token '" ++ name ++ "' needs both min and max sizes"

def Viewports.validate {α : Type} [LE α] [DecidableLE α] (v : Viewports α) :
    Except (FluidError α) Unit :=
  if v.max <= v.min then .error (.invalidViewports v.min v.max) else .ok ()

/-- The line `offset + slope · width`, cut off at `low` and `high`. Lengths are in units of the root
size, and so is the width. -/
structure Clamp (α : Type) where
  low : α
  offset : α
  slope : α
  high : α
  deriving DecidableEq, Repr, Inhabited

/-- The line through the two sizes at the two viewports, all given in pixels. -/
def Clamp.between {α : Type} [Add α] [Sub α] [Mul α] [Div α] [Neg α]
    (root min max minWidth maxWidth : α) : Clamp α :=
  let low := min / root
  let high := max / root
  let slope := (high - low) / (maxWidth / root - minWidth / root)
  { low, offset := -(minWidth / root) * slope + low, slope, high }

/-- The slope in hundredths of the width. -/
def Clamp.percent {α : Type} [Mul α] [OfNat α 100] (c : Clamp α) : α := c.slope * 100

/-- A size that is the same at all widths, or one that follows the width. -/
inductive FluidSize (α : Type) where
  | fixed (size : α)
  | clamped (c : Clamp α)
  deriving DecidableEq, Repr, Inhabited

/-- The root size in pixels. -/
def rootSize {α : Type} [OfNat α 16] : α := 16

/-- A size that does not grow stands for itself. -/
def fluidSize {α : Type} [BEq α] [Add α] [Sub α] [Mul α] [Div α] [Neg α] [OfNat α 16]
    (min max : α) (v : Viewports α) : FluidSize α :=
  if min == max then .fixed (min / rootSize)
  else .clamped (.between rootSize min max v.min v.max)

/-- Two places; a negative number that rounds to zero loses its sign. -/
def places2 (x : Float) : String :=
  let text := Decimal.fixed 2 x
  if text = "-0.00" then "0.00" else text

def Clamp.css (c : Clamp Float) : String :=
  "clamp(" ++ Decimal.plain c.low ++ "rem, " ++ places2 c.offset ++ "rem + " ++
    places2 c.percent ++ "vw, " ++ Decimal.plain c.high ++ "rem)"

def FluidSize.css : FluidSize Float → String
  | fixed size => Decimal.plain size ++ "rem"
  | clamped c => c.css

def Item.fluid (v : Viewports) (i : Item) : Except FluidError Item :=
  match i.min, i.max with
  | some min, some max => .ok { i with value := some (.text (fluidSize min max v).css) }
  | _, _ => .error (.missingBounds i.name)

def fluidItems (items : List Item) (v : Viewports) : Except FluidError (List Item) := do
  v.validate
  items.mapM (Item.fluid v)

end UtilityCss.Token
