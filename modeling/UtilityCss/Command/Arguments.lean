import UtilityCss.File.Path

/-! The command line: a command with its options, each of which may be given once, content paths
apart. -/
namespace UtilityCss

structure BuildOptions where
  config : Option Path := none
  output : Option String := none
  /-- Content paths that take the place of the configured ones. -/
  content : List Path := []
  flatten : Bool := false
  compressed : Bool := false
  deriving DecidableEq, Repr, Inhabited

inductive Command where
  | build (options : BuildOptions)
  | check (config : Option Path)
  | rules (config : Option Path)
  deriving DecidableEq, Repr, Inhabited

inductive Request where
  | run (command : Command)
  | version
  | help
  | misuse
  deriving DecidableEq, Repr, Inhabited

namespace Arguments

inductive ValueOption where
  | config
  | output
  | content
  deriving DecidableEq, Repr, Inhabited

inductive Switch where
  | flatten
  | compressed
  deriving DecidableEq, Repr, Inhabited

inductive Word where
  /-- An option with the value that is written in the same argument, if there is one. -/
  | option (o : ValueOption) (value : Option String)
  | switch (s : Switch)
  | help
  /-- The mark behind which no options follow. -/
  | stop
  | other
  deriving DecidableEq, Repr, Inhabited

def cutValue (text : List Char) : String × Option String :=
  match text.dropWhile (· ≠ '=') with
  | [] => (String.ofList text, none)
  | _ :: value => (String.ofList (text.takeWhile (· ≠ '=')), some (String.ofList value))

/-- The value written right behind an option's letter, if any is; an equals sign may lead it in. -/
def attached (text : List Char) : Option String :=
  match text with
  | [] => none
  | '=' :: rest => some (String.ofList rest)
  | text => some (String.ofList text)

def longWord (text : List Char) : Word :=
  match cutValue text with
  | ("config", value) => .option .config value
  | ("output", value) => .option .output value
  | ("content", value) => .option .content value
  | ("flatten", none) => .switch .flatten
  | ("compressed", none) => .switch .compressed
  | ("help", none) => .help
  | _ => .other

def word (argument : String) : Word :=
  match argument.toList with
  | ['-', '-'] => .stop
  | '-' :: '-' :: rest => longWord rest
  | '-' :: 'c' :: rest => .option .config (attached rest)
  | '-' :: 'o' :: rest => .option .output (attached rest)
  | '-' :: 'h' :: _ => .help
  | _ => .other

def isValue (argument : String) : Bool := argument = "-" || argument.toList.head? ≠ some '-'

/-- The options with one more; a path may not be empty. -/
def setOption (b : BuildOptions) (o : ValueOption) (value : String) : Option BuildOptions :=
  match o with
  | .config =>
    if value.isEmpty || b.config.isSome then none else some { b with config := some ⟨value⟩ }
  | .output => if b.output.isSome then none else some { b with output := some value }
  | .content => if value.isEmpty then none else some { b with content := b.content ++ [⟨value⟩] }

def setSwitch (b : BuildOptions) : Switch → Option BuildOptions
  | .flatten => if b.flatten then none else some { b with flatten := true }
  | .compressed => if b.compressed then none else some { b with compressed := true }

def options (options : List ValueOption) (switches : List Switch) (finish : BuildOptions → Command) :
    BuildOptions → List String → Request
  | b, [] => .run (finish b)
  | b, argument :: rest =>
    match word argument with
    | .help => .help
    | .other => .misuse
    | .stop => if rest.isEmpty then .run (finish b) else .misuse
    | .switch s =>
      if !switches.contains s then .misuse
      else match setSwitch b s with
        | some b => Arguments.options options switches finish b rest
        | none => .misuse
    | .option o value =>
      if !options.contains o then .misuse
      else match value, rest with
        | some value, rest => match setOption b o value with
          | some b => Arguments.options options switches finish b rest
          | none => .misuse
        | none, value :: rest =>
          if !isValue value then .misuse
          else match setOption b o value with
            | some b => Arguments.options options switches finish b rest
            | none => .misuse
        | none, [] => .misuse

def commandNames : List String := ["build", "check", "rules", "help"]

def command (name : String) (rest : List String) : Request :=
  match name with
  | "build" =>
    options [.config, .output, .content] [.flatten, .compressed] .build {} rest
  | "check" => options [.config] [] (fun b => .check b.config) {} rest
  | "rules" => options [.config] [] (fun b => .rules b.config) {} rest
  | "help" => match rest with
    | [] => .help
    | [name] => if commandNames.contains name then .help else .misuse
    | _ => .misuse
  | _ => .misuse

def request : List String → Request
  | [] => .misuse
  | first :: rest =>
    match first.toList with
    | '-' :: 'V' :: _ => .version
    | '-' :: 'h' :: _ => .help
    | _ =>
      if first = "--version" then .version
      else if first = "--help" then .help
      else command first rest

end Arguments

end UtilityCss
