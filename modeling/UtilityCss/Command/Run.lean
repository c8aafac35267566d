import UtilityCss.Command.Procedure
import UtilityCss.Text.Pad

/-! Commands: what they print, and what they make of the files. -/
namespace UtilityCss

namespace Command

def lines (items : List String) : String := String.join (items.map (· ++ "\n"))

def performBuild (o : BuildOptions) : Procedure Unit := do
  let p ← Procedure.look fun fs => (Project.load fs o.config).mapError .project
  let p := p.override o
  let css ← Procedure.look fun fs => p.stylesheet fs
  match p.destination o.output with
  | none => Procedure.print css
  | some file => Procedure.writeOutput file css

/-- The groups that a configuration makes use of, each once, in the order of first use. -/
def usedGroups (c : StyleConfig) : List String :=
  (c.customProperties.map Theme.PropertyGroup.group ++
    c.utilities.map Theme.UtilityFamily.group).eraseDups

def groupLine (r : Theme.Registry) (group : String) : String :=
  match r.get? group with
  | some tokens => "group " ++ group ++ ": " ++ toString tokens.size ++ " tokens"
  | none => "group " ++ group ++ ": missing"

def groupReport (c : StyleConfig) (r : Theme.Registry) : List String :=
  (usedGroups c).map (groupLine r)

def performCheck (config : Option Path) : Procedure Unit := do
  let p ← Procedure.look fun fs => (Project.load fs config).mapError .project
  let rules ← Procedure.look fun _ => p.ruleTable
  let registry ← Procedure.look fun fs => p.registry fs
  let report := groupReport p.config.style registry
  Procedure.print (lines (("rules: " ++ toString rules.size) :: report))

def ruleLine (index : Nat) (r : RuleInfo) : String :=
  let kind := if r.isPattern then "pattern" else "exact"
  let line := Text.padLeft 2 (toString index) ++ "  " ++ Text.padRight 16 r.name ++ " " ++
    Text.padRight 10 r.layer.name ++ " " ++ Text.padRight 7 kind ++ "  " ++ r.matcher
  String.ofList (Text.trimEnd Text.isBlank line.toList)

def listing (table : RuleTable) : List String :=
  table.listing.zipIdx.map fun (r, index) => ruleLine index r

def performRules (config : Option Path) : Procedure Unit := do
  let p ← Procedure.look fun fs => (Project.load fs config).mapError .project
  let rules ← Procedure.look fun _ => p.ruleTable
  Procedure.print (lines (listing rules))

def perform : Command → Procedure Unit
  | build options => performBuild options
  | check config => performCheck config
  | rules config => performRules config

end Command

structure Outcome where
  code : Nat
  output : String
  error : Option CommandError
  files : FileSystem
  deriving Inhabited

namespace Outcome

def versionText : String := "cube 0.1.0\n"

def ofExec : Except CommandError Unit × World → Outcome
  | (.ok (), w) => ⟨0, w.output, none, w.files⟩
  | (.error e, w) => ⟨1, w.output, some e, w.files⟩

def ofArguments (fs : FileSystem) (arguments : List String) : Outcome :=
  match Arguments.request arguments with
  | .misuse => ⟨2, "", none, fs⟩
  | .version => ⟨0, versionText, none, fs⟩
  | .help => ⟨0, "", none, fs⟩
  | .run command => ofExec (command.perform.exec ⟨fs, ""⟩)

end Outcome

end UtilityCss
