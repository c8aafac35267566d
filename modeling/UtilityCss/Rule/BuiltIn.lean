import UtilityCss.Rule.Table

/-!
The rules that every table begins with: layout classes, whose variants are set by custom properties
with fallbacks, and families of classes that point such a property at a spacing token.
-/
namespace UtilityCss

open Css (Declarations)

namespace Rule

def suffixPattern : String := "[A-Za-z0-9_-]+"

/-- The tokens made of `stem`, a dash and a suffix, each of which sets `property` to the custom
property made of `target`, a dash and that suffix. -/
def variableFamily (name stem property target : String) : Rule where
  name := name
  matcher := .pattern
    (String.ofList (Regex.quote stem.toList) ++ "-(" ++ suffixPattern ++ ")") 1
  output := fun m _ =>
    .ofDeclarations (.singleton property
      ("var(--" ++ target ++ "-" ++ (m.group? 1).getD "" ++ ")"))

end Rule

namespace BuiltIn

def declarations (pairs : List (String × String)) : Declarations := .ofList pairs

def own (pairs : List (String × String)) : RuleBlock := ⟨id, declarations pairs⟩

def related (combinator : String) (pairs : List (String × String)) : RuleBlock :=
  ⟨fun selector => selector ++ " " ++ combinator, declarations pairs⟩

def attributed (condition : String) (pairs : List (String × String)) : RuleBlock :=
  ⟨fun selector => selector ++ condition, declarations pairs⟩

def layout (name : String) (blocks : RuleOutput) : Rule where
  name := name
  matcher := .exact name
  output := fun _ _ => blocks

def flow : Rule := layout "flow"
  [related "> * + *" [("margin-block-start", "var(--flow-space, 1em)")]]

def cluster : Rule := layout "cluster"
  [own
    [("display", "flex"),
      ("flex-wrap", "wrap"),
      ("gap", "var(--gutter, 1rem)"),
      ("justify-content", "var(--cluster-horizontal-alignment, flex-start)"),
      ("align-items", "var(--cluster-vertical-alignment, center)")]]

def wrapper : Rule := layout "wrapper"
  [own
    [("margin-inline", "auto"),
      ("max-width", "clamp(16rem, var(--wrapper-max-width, 100vw), 80rem)"),
      ("padding-left", "var(--gutter)"),
      ("padding-right", "var(--gutter)"),
      ("position", "relative")]]

def region : Rule := layout "region"
  [own [("padding-block", "var(--region-space, var(--space-xl-2xl))")]]

def visuallyHidden : Rule := layout "visually-hidden"
  [own
    [("border", "0"),
      ("clip", "rect(0 0 0 0)"),
      ("height", "0"),
      ("margin", "0"),
      ("overflow", "hidden"),
      ("padding", "0"),
      ("position", "absolute"),
      ("width", "1px"),
      ("white-space", "nowrap")]]

def switcher : Rule := layout "switcher"
  [own
      [("display", "flex"),
        ("flex-wrap", "wrap"),
        ("gap", "var(--gutter, 1rem)"),
        ("align-items", "var(--switcher-vertical-alignment, flex-start)")],
    related "> *"
      [("flex-grow", "1"),
        ("flex-basis", "calc((var(--switcher-target-container-width, 40rem) - 100%) * 999)")],
    related "> :nth-child(n+3)" [("flex-basis", "100%")]]

def sidebar : Rule := layout "sidebar"
  [own
      [("display", "flex"),
        ("flex-wrap", "wrap"),
        ("gap", "var(--gutter, 1rem)")],
    related "> :first-child"
      [("flex-basis", "var(--sidebar-target-width, 20rem)"),
        ("flex-grow", "1")],
    related "> :last-child"
      [("flex-basis", "0"),
        ("flex-grow", "999"),
        ("min-width", "var(--sidebar-content-min-width, 50%)")]]

def repel : Rule := layout "repel"
  [own
      [("display", "flex"),
        ("flex-wrap", "wrap"),
        ("justify-content", "space-between"),
        ("align-items", "var(--repel-vertical-alignment, center)"),
        ("gap", "var(--gutter, 1rem)")],
    attributed "[data-nowrap]" [("flex-wrap", "nowrap")]]

/-- The variants set the custom properties that the first block reads. -/
def grid : Rule := layout "grid"
  [own
      [("display", "grid"),
        ("grid-template-columns",
          "repeat(var(--grid-placement, auto-fill), minmax(var(--grid-min-item-size, 16rem), 1fr))"),
        ("gap", "var(--gutter, var(--space-s-l))")],
    attributed "[data-layout=\"50-50\"]"
      [("--grid-placement", "auto-fit"),
        ("--grid-min-item-size", "clamp(16rem, 50vw, 33rem)")],
    attributed "[data-layout=\"thirds\"]"
      [("--grid-placement", "auto-fit"),
        ("--grid-min-item-size", "clamp(16rem, 33%, 20rem)")]]

def spacingFamily (name : String) : Rule := .variableFamily name name ("--" ++ name) "space"

def layouts : List Rule :=
  [flow, cluster, wrapper, region, visuallyHidden, switcher, sidebar, repel, grid]

def families : List Rule := ["flow-space", "region-space", "gutter"].map spacingFamily

/-- All built-in rules in the order in which they are tried. -/
def rules : List Rule := layouts ++ families

end BuiltIn

end UtilityCss
