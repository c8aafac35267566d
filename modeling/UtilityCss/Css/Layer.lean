/-! Cascade layers, lowest precedence first. -/
namespace UtilityCss.Css

inductive Layer where
  | reset
  | base
  | components
  | default
  deriving DecidableEq, Repr, Inhabited

namespace Layer

/-- All layers in order of precedence. -/
def all : List Layer := [reset, base, components, default]

def name : Layer → String
  | reset => "reset"
  | base => "base"
  | components => "components"
  | default => "default"

def ofName? : String → Option Layer
  | "reset" => some reset
  | "base" => some base
  | "components" => some components
  | "default" => some default
  | _ => none

@[simp] theorem ofName?_name (l : Layer) : ofName? l.name = some l := by cases l <;> rfl

def rank : Layer → Nat
  | reset => 0
  | base => 1
  | components => 2
  | default => 3

def title : Layer → String
  | reset => "Reset"
  | base => "Base"
  | components => "Components"
  | default => "Default"

end Layer

end UtilityCss.Css
