import UtilityCss.Config.Codec
import UtilityCss.Data.Toml.Reader
import UtilityCss.Token.Sources

/-!
Projects: where their tokens and their content are, where the stylesheet goes, and how it is made. A
project file says so in TOML; the fields of the stylesheet's configuration stand in it beside those
of the project.
-/
namespace UtilityCss

open Data (Dialect)

def Path.encode (p : Path) : Data := .ofString p.text

def Path.decode (value : Data) : Option Path := value.string?.map Path.mk

namespace Token

def GroupSource.encode (s : GroupSource) : Data :=
  .ofFields [("group", .ofString s.group), ("file", s.file.encode), ("fluid", .bool s.fluid)]

def GroupSource.decode (d : Dialect) (value : Data) : Option GroupSource := do
  let fields ← value.fields? d ["group", "file", "fluid"]
  return ⟨← fields.required "group" Data.string?, ← fields.required "file" Path.decode,
    ← fields.optional "fluid" false Data.bool?⟩

def Sources.encode (s : Sources) : Data :=
  .ofFields [("dir", s.directory.encode), ("viewports", Data.ofOption Path.encode s.viewports),
    ("groups", .list (s.groups.map GroupSource.encode))]

def Sources.decode (d : Dialect) (value : Data) : Option Sources := do
  let fields ← value.fields? d ["dir", "viewports", "groups"]
  let default : Sources := {}
  return ⟨← fields.optional "dir" default.directory Path.decode,
    ← fields.optional "viewports" default.viewports (Data.nullable? Path.decode),
    ← fields.optional "groups" default.groups (Data.list? (GroupSource.decode d))⟩

end Token

structure ContentConfig where
  paths : List Path := [⟨"src"⟩]
  extensions : List String :=
    ["astro", "html", "js", "jsx", "md", "mdx", "svelte", "ts", "tsx", "vue"]
  deriving DecidableEq, Repr, Inhabited

namespace ContentConfig

def encode (c : ContentConfig) : Data :=
  .ofFields [("paths", .list (c.paths.map Path.encode)),
    ("extensions", .list (c.extensions.map .ofString))]

def decode (d : Dialect) (value : Data) : Option ContentConfig := do
  let fields ← value.fields? d ["paths", "extensions"]
  let default : ContentConfig := {}
  return ⟨← fields.optional "paths" default.paths (Data.list? Path.decode),
    ← fields.optional "extensions" default.extensions (Data.list? Data.string?)⟩

end ContentConfig

structure BuildConfig where
  /-- The stylesheet's file; it is printed if there is none. -/
  output : Option Path := none
  deriving DecidableEq, Repr, Inhabited

namespace BuildConfig

def encode (c : BuildConfig) : Data := .ofFields [("output", Data.ofOption Path.encode c.output)]

def decode (d : Dialect) (value : Data) : Option BuildConfig := do
  let fields ← value.fields? d ["output"]
  return ⟨← fields.optional "output" none (Data.nullable? Path.decode)⟩

end BuildConfig

structure ProjectConfig where
  tokens : Token.Sources := {}
  content : ContentConfig := {}
  build : BuildConfig := {}
  style : StyleConfig := {}
  deriving DecidableEq, Repr, Inhabited

namespace ProjectConfig

def encode (c : ProjectConfig) : Data :=
  .ofFields ([("tokens", c.tokens.encode), ("content", c.content.encode),
    ("build", c.build.encode)] ++ c.style.fields)

/-- All fields share one table, so there is no other way to write them. -/
def decode : Data → Option ProjectConfig
  | .table entries => do
    let fields ← (Data.table entries).fields? .toml
      (["tokens", "content", "build"] ++ StyleConfig.fieldNames)
    return ⟨← fields.optional "tokens" {} (Token.Sources.decode .toml),
      ← fields.optional "content" {} (ContentConfig.decode .toml),
      ← fields.optional "build" {} (BuildConfig.decode .toml),
      ← StyleConfig.ofFields? .shared fields⟩
  | _ => none

def ofToml? (text : String) : Option ProjectConfig := (Data.ofToml? text).bind decode

end ProjectConfig

structure Project where
  root : Path
  config : ProjectConfig
  deriving DecidableEq, Repr, Inhabited

inductive ProjectError where
  | unreadable (file : Path)
  | invalid (file : Path)
  deriving DecidableEq, Repr, Inhabited

def ProjectError.message : ProjectError → String
  | unreadable file => "Failed to read " ++ file.text
  | invalid file => "Invalid project configuration in " ++ file.text

namespace Project

def defaultFile : Path := ⟨"cube.toml"⟩

def rootOf (file : Path) : Path :=
  match file.parent? with
  | some parent => if parent.isEmpty then ⟨"."⟩ else parent
  | none => ⟨"."⟩

def readFile (fs : FileSystem) (file : Path) : Except ProjectError Project :=
  match fs.read file with
  | none => .error (.unreadable file)
  | some text => match ProjectConfig.ofToml? text with
    | some config => .ok ⟨rootOf file, config⟩
    | none => .error (.invalid file)

/-- The project of the given file. Without one, the default file need not be there. -/
def load (fs : FileSystem) : Option Path → Except ProjectError Project
  | some file => readFile fs file
  | none =>
    if fs.isFile defaultFile then readFile fs defaultFile else .ok ⟨rootOf defaultFile, {}⟩

def resolve (p : Project) (path : Path) : Path := p.root.join path

def tokenSources (p : Project) : Token.Sources := p.config.tokens.relativeTo p.root

def contentPaths (p : Project) : List Path := p.config.content.paths.map p.resolve

end Project

end UtilityCss
