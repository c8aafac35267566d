import Mathlib.Data.List.Basic
import UtilityCss.Css.Stylesheet

/-!
A reader of stylesheets. It goes over the text once and finds the structure by braces and
semicolons alone; only then does it take off the blanks and line ends of the output style.
-/
namespace UtilityCss.Css

/-- What a reader takes for structure. -/
inductive Delimiting where
  /-- All braces, and the semicolons inside rules. -/
  | plain
  /-- All braces and semicolons, unless a backslash stands in front of them. -/
  | escaped
  deriving DecidableEq, Repr, Inhabited

def FreeOf (chars text : List Char) : Prop := ∀ c ∈ text, c ∉ chars

instance (chars text : List Char) : Decidable (FreeOf chars text) := List.decidableBAll _ text

/-- A style rule as it is read. The layer is not known where layers are flattened. -/
structure StyleRule where
  layer : Option Layer
  selector : String
  declarations : List (String × String)
  deriving DecidableEq, Repr

structure Reader where
  /-- What has been read since the last brace or semicolon. -/
  text : List Char := []
  /-- Behind a backslash that protects the next character. -/
  guarded : Bool := false
  layer : Option Layer := none
  /-- The selector of the rule around, with the declarations read so far. -/
  rule : Option (String × List (String × String)) := none
  rules : List StyleRule := []
  deriving DecidableEq, Repr

namespace Reader

def isStop (d : Delimiting) (inRule : Bool) (c : Char) : Bool :=
  c = '\x7b' || c = '\x7d' || (c = ';' && (d = .escaped || inRule))

def protects (d : Delimiting) (c : Char) : Bool := d = .escaped && c = '\\'

def depth : LayerMode → Nat
  | .layered => 1
  | .flattened => 0

def indent (style : OutputStyle) (depth : Nat) : List Char :=
  match style with
  | .expanded => List.replicate (2 * depth) ' '
  | .compressed => []

def space : OutputStyle → List Char
  | .expanded => [' ']
  | .compressed => []

def unindent (style : OutputStyle) (depth : Nat) (text : List Char) : Option (List Char) :=
  (text.dropWhile (· = '\n')).dropPrefix? (indent style depth)

def declaration? (o : OutputOptions) (text : List Char) : Option (String × String) := do
  let text ← unindent o.style (depth o.layers + 1) text
  let value ← (text.dropWhile (· ≠ ':')).dropPrefix? (':' :: space o.style)
  return (String.ofList (text.takeWhile (· ≠ ':')), String.ofList value)

def selector? (o : OutputOptions) (text : List Char) : Option String := do
  let text ← unindent o.style (depth o.layers) text
  return String.ofList (← text.dropSuffix? (space o.style))

def layerKeyword : List Char := ['@', 'l', 'a', 'y', 'e', 'r', ' ']

def layer? (o : OutputOptions) (text : List Char) : Option Layer := do
  let text ← unindent o.style 0 text
  let name ← (← text.dropPrefix? layerKeyword).dropSuffix? (space o.style)
  Layer.ofName? (String.ofList name)

/-- An opening brace begins a layer where there is none yet, and a rule elsewhere. -/
def openBlock (o : OutputOptions) (r : Reader) : Option Reader :=
  match r.rule with
  | some _ => none
  | none =>
    if o.layers = .layered ∧ r.layer = none then
      (layer? o r.text).map fun layer => { r with text := [], layer := some layer }
    else
      (selector? o r.text).map fun selector => { r with text := [], rule := some (selector, []) }

/-- The text in front of the closing brace of a rule: in the compressed style it is the last
declaration. -/
def lastDeclarations (o : OutputOptions) (text : List Char) : Option (List (String × String)) :=
  match o.style with
  | .expanded => if unindent .expanded (depth o.layers) text = some [] then some [] else none
  | .compressed => (declaration? o text).map ([·])

def closeBlock (o : OutputOptions) (r : Reader) : Option Reader :=
  match r.rule with
  | some (selector, declarations) =>
    (lastDeclarations o r.text).map fun last =>
      { r with
        text := []
        rule := none
        rules := r.rules ++ [⟨r.layer, selector, declarations ++ last⟩] }
  | none =>
    if r.layer.isSome && unindent o.style 0 r.text = some [] then
      some { r with text := [], layer := none }
    else none

def endDeclaration (o : OutputOptions) (r : Reader) : Option Reader :=
  match r.rule with
  | some (selector, declarations) =>
    (declaration? o r.text).map fun d =>
      { r with text := [], rule := some (selector, declarations ++ [d]) }
  | none => none

def step (d : Delimiting) (o : OutputOptions) (r : Reader) (c : Char) : Option Reader :=
  if r.guarded || !isStop d r.rule.isSome c then
    some { r with text := r.text ++ [c], guarded := !r.guarded && protects d c }
  else if c = '\x7b' then r.openBlock o
  else if c = '\x7d' then r.closeBlock o
  else r.endDeclaration o

/-- Text without structure, which protects nothing behind itself. -/
def inert (d : Delimiting) (inRule : Bool) : Bool → List Char → Bool
  | guarded, [] => !guarded
  | guarded, c :: rest =>
    (guarded || !isStop d inRule c) && inert d inRule (!guarded && protects d c) rest

theorem inert_append {d : Delimiting} {inRule guarded : Bool} {front back : List Char}
    (hfront : inert d inRule guarded front) (hback : inert d inRule false back) :
    inert d inRule guarded (front ++ back) := by
  induction front generalizing guarded with
  | nil =>
    have hguarded : guarded = false := by simpa [inert] using hfront
    rw [hguarded]
    exact hback
  | cons c rest ih =>
    simp only [List.cons_append, inert, Bool.and_eq_true] at hfront ⊢
    exact ⟨hfront.1, ih hfront.2⟩

theorem inert_of_forall {d : Delimiting} {inRule : Bool} {text : List Char}
    (h : ∀ c ∈ text, isStop d inRule c = false ∧ protects d c = false) :
    inert d inRule false text := by
  induction text with
  | nil => rfl
  | cons c rest ih =>
    obtain ⟨hstop, hprotects⟩ := h c (by simp)
    have hrest := ih fun x hx => h x (by simp [hx])
    simp [inert, hstop, hprotects, hrest]

theorem run_inert {d : Delimiting} {o : OutputOptions} {front : List Char} (r : Reader)
    (h : inert d r.rule.isSome r.guarded front) :
    front.foldlM (step d o) r = some { r with text := r.text ++ front, guarded := false } := by
  induction front generalizing r with
  | nil =>
    have hguarded : r.guarded = false := by simpa [inert] using h
    simp [← hguarded]
  | cons c rest ih =>
    simp only [inert, Bool.and_eq_true] at h
    rw [List.foldlM_cons, step, if_pos h.1, Option.bind_eq_bind, Option.bind_some, ih _ h.2]
    simp

def finish (r : Reader) : Option (List StyleRule) :=
  if !r.guarded && r.layer.isNone && r.rule.isNone && r.text.all (· = '\n') then some r.rules
  else none

def head : OutputStyle → String
  | .expanded => "@layer reset, base, components, default;"
  | .compressed => "@layer reset,base,components,default;"

/-- The rules of a stylesheet; none where it is not written as the options say. -/
def read (d : Delimiting) (o : OutputOptions) (css : String) : Option (List StyleRule) :=
  match o.layers with
  | .flattened => (css.toList.foldlM (step d o) {}).bind finish
  | .layered =>
    if css.isEmpty then some []
    else do (← (← css.toList.dropPrefix? (head o.style).toList).foldlM (step d o) {}).finish

end Reader

end UtilityCss.Css
