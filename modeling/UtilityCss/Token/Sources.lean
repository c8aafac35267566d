import UtilityCss.File.System
import UtilityCss.Token.Fluid

/-!
Registries from token files. A file that is missing leaves its group out; one that cannot be read is
an error.
-/
namespace UtilityCss.Token

open Theme (Registry TokenGroup)

structure GroupSource where
  group : String
  /-- Seen from the directory of the token files. -/
  file : Path
  /-- Whether its items have sizes and get fluid values. -/
  fluid : Bool := false
  deriving DecidableEq, Repr, Inhabited

structure Sources where
  directory : Path := ⟨"src/design-tokens"⟩
  /-- The file with the viewport widths, seen from the directory. -/
  viewports : Option Path := some ⟨"viewports.json"⟩
  groups : List GroupSource :=
    [⟨Theme.GroupName.colors, ⟨"colors.json"⟩, false⟩, ⟨Theme.GroupName.fontFamily, ⟨"fonts.json"⟩, false⟩,
      ⟨Theme.GroupName.fontSize, ⟨"text-sizes.json"⟩, true⟩,
      ⟨Theme.GroupName.fontWeight, ⟨"text-weights.json"⟩, false⟩,
      ⟨Theme.GroupName.lineHeight, ⟨"text-leading.json"⟩, false⟩,
      ⟨Theme.GroupName.spacing, ⟨"spacing.json"⟩, true⟩]
  deriving DecidableEq, Repr, Inhabited

inductive LoadError where
  | unreadable (file : Path)
  | invalid (file : Path)
  | fluid (e : FluidError)
  deriving Inhabited

def LoadError.message : LoadError → String
  | unreadable file => "failed to read " ++ file.text
  | invalid file => "invalid token file " ++ file.text
  | fluid e => e.message

namespace Sources

def relativeTo (s : Sources) (base : Path) : Sources := { s with directory := base.join s.directory }

end Sources

def readJson {α : Type} (fs : FileSystem) (decode : String → Option α) (file : Path) :
    Except LoadError α :=
  match fs.read file with
  | none => .error (.unreadable file)
  | some text => match decode text with
    | some a => .ok a
    | none => .error (.invalid file)

/-- The viewports that a file gives; the default ones where there is no such file. -/
def loadViewports (fs : FileSystem) (s : Sources) : Except LoadError Viewports :=
  match s.viewports with
  | none => .ok .default
  | some file =>
    let path := s.directory.join file
    if !fs.isFile path then .ok .default
    else do
      let v ← readJson fs Viewports.ofJson? path
      v.validate.mapError .fluid
      return v

/-- The tokens of a file. Sizes are made into values where viewports are given. -/
def loadGroup (fs : FileSystem) (viewports : Option Viewports) (path : Path) :
    Except LoadError TokenGroup := do
  let file ← readJson fs File.ofJson? path
  match viewports with
  | none => return groupOf file.items
  | some v => return groupOf (← (fluidItems file.items v).mapError .fluid)

def addSource (fs : FileSystem) (directory : Path) (viewports : Viewports) (r : Registry)
    (source : GroupSource) : Except LoadError Registry :=
  let path := directory.join source.file
  if !fs.isFile path then .ok r
  else do
    let viewports := if source.fluid then some viewports else none
    return r.insert source.group (← loadGroup fs viewports path)

/-- The registry of all groups. Viewports are looked up only if a group needs them. -/
def loadRegistry (fs : FileSystem) (s : Sources) : Except LoadError Registry := do
  let viewports ← if s.groups.any GroupSource.fluid then loadViewports fs s else .ok .default
  s.groups.foldlM (addSource fs s.directory viewports) .empty

end UtilityCss.Token
