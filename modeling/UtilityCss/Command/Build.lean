import UtilityCss.Command.Arguments
import UtilityCss.Compile
import UtilityCss.Content.Files
import UtilityCss.Project.Basic

/-! Builds: from a project and the files around it to a stylesheet. -/
namespace UtilityCss

inductive CommandError where
  | project (e : ProjectError)
  | rules (e : RuleError)
  | tokens (e : Token.LoadError)
  | content (file : Path)
  | makeDirectory (directory : Path)
  | write (file : Path)
  deriving Inhabited

def CommandError.message : CommandError → String
  | project e => e.message
  | rules _ => "Invalid rule configuration"
  | tokens _ => "Failed to load tokens"
  | content file => "Failed to read content file " ++ file.text
  | makeDirectory directory => "Failed to create " ++ directory.text
  | write file => "Failed to write " ++ file.text

namespace Project

def ruleTable (p : Project) : Except CommandError RuleTable :=
  (p.config.style.ruleTable (some Regex.sizeLimit)).mapError .rules

def registry (fs : FileSystem) (p : Project) : Except CommandError Theme.Registry :=
  (Token.loadRegistry fs p.tokenSources).mapError .tokens

def contentFiles (fs : FileSystem) (p : Project) : List Path :=
  Content.files fs p.contentPaths p.config.content.extensions

def stylesheet (fs : FileSystem) (p : Project) : Except CommandError String := do
  let rules ← p.ruleTable
  let registry ← p.registry fs
  let tokens ← (Content.scan fs (p.contentFiles fs)).mapError .content
  let compiler : Compiler := ⟨registry, rules, p.config.style⟩
  return (compiler.compile tokens).css

def override (p : Project) (o : BuildOptions) : Project :=
  let config := p.config
  let paths := if o.content.isEmpty then config.content.paths else o.content
  let output := config.style.output
  let layers := if o.flatten then .flattened else output.layers
  let style := if o.compressed then .compressed else output.style
  { p with config := { config with
      content := { config.content with paths }
      style := { config.style with output := { layers, style } } } }

/-- The file that the stylesheet goes to; it is printed if there is none. A path in the options is
seen from the working directory, a configured one from the project. -/
def destination (p : Project) (output : Option String) : Option Path :=
  match output with
  | some "-" => none
  | some path => some ⟨path⟩
  | none => p.config.build.output.map p.resolve

end Project

end UtilityCss
