import UtilityCss.Css.Declarations

/-!
Stylesheets from fragments. The fragments of a layer stand together, layers follow each other in
order of precedence, and within a layer the fragments keep their order.
-/
namespace UtilityCss.Css

inductive LayerMode where
  | layered
  | flattened
  deriving DecidableEq, Repr, Inhabited

inductive OutputStyle where
  | expanded
  | compressed
  deriving DecidableEq, Repr, Inhabited

structure OutputOptions where
  layers : LayerMode := .layered
  style : OutputStyle := .expanded
  deriving DecidableEq, Repr, Inhabited

namespace Fragment

/-- A fragment without declarations leaves no trace in a stylesheet. -/
def isEffective (f : Fragment) : Bool := !f.declarations.isEmpty

/-- One declaration per line, each line behind `indent`. -/
def expanded (indent : String) (f : Fragment) : String :=
  indent ++ f.selector ++ " \x7b\n" ++
    String.join (f.declarations.entries.map fun (property, value) =>
      indent ++ "  " ++ property ++ ": " ++ value ++ ";\n") ++
    indent ++ "\x7d\n"

def compressed (f : Fragment) : String :=
  f.selector ++ "\x7b" ++
    ";".intercalate (f.declarations.entries.map fun (property, value) =>
      property ++ ":" ++ value) ++
    "\x7d"

end Fragment

namespace Stylesheet

/-- The groups with one more fragment, behind the others of its layer. -/
def place (f : Fragment) : List (Layer × List Fragment) → List (Layer × List Fragment)
  | [] => [(f.layer, [f])]
  | (layer, members) :: rest =>
    if f.layer = layer then (layer, members ++ [f]) :: rest
    else if f.layer.rank < layer.rank then (f.layer, [f]) :: (layer, members) :: rest
    else (layer, members) :: place f rest

/-- The layers that are in use, in order of precedence, each with its fragments. -/
def groups (fragments : List Fragment) : List (Layer × List Fragment) :=
  fragments.foldl (fun groups f => if f.isEffective then place f groups else groups) []

/-- Rules one after another; a blank line parts them in the expanded style. -/
def rules (style : OutputStyle) (indent : String) (fragments : List Fragment) : String :=
  match style with
  | .expanded => "\n".intercalate (fragments.map (Fragment.expanded indent))
  | .compressed => String.join (fragments.map Fragment.compressed)

/-- The statement that fixes the order of all four layers. -/
def layerOrder (style : OutputStyle) : String :=
  let separator := match style with
    | .expanded => ", "
    | .compressed => ","
  "@layer " ++ separator.intercalate (Layer.all.map Layer.name) ++ ";"

def layerBlock (style : OutputStyle) (layer : Layer) (fragments : List Fragment) : String :=
  match style with
  | .expanded =>
    "\n\n@layer " ++ layer.name ++ " \x7b\n" ++ rules style "  " fragments ++ "\x7d"
  | .compressed => "@layer " ++ layer.name ++ "\x7b" ++ rules style "" fragments ++ "\x7d"

def layered (style : OutputStyle) (groups : List (Layer × List Fragment)) : String :=
  layerOrder style ++ String.join (groups.map fun g => layerBlock style g.1 g.2) ++
    match style with
    | .expanded => "\n"
    | .compressed => ""

/-- The text of a stylesheet; empty when no fragment is effective. -/
def compose (fragments : List Fragment) (options : OutputOptions) : String :=
  let groups := groups fragments
  if groups.isEmpty then ""
  else match options.layers with
    | .flattened => rules options.style "" (groups.flatMap Prod.snd)
    | .layered => layered options.style groups

end Stylesheet

end UtilityCss.Css
