import UtilityCss.Command.Run

/-! Where a command looks for files, so that no others have to be brought in front of it. -/
namespace UtilityCss

namespace Project

def reads (p : Project) : List Path :=
  let sources := p.tokenSources
  (sources.viewports.toList ++ sources.groups.map Token.GroupSource.file).map sources.directory.join ++
    p.contentPaths

end Project

namespace Command

def projectFile : Command → Path
  | build options => options.config.getD Project.defaultFile
  | check config | rules config => config.getD Project.defaultFile

def options : Command → BuildOptions
  | build options => options
  | check _ | rules _ => {}

/-- The paths at which a command looks, as far as the project file is there to tell. -/
def reads (fs : FileSystem) (c : Command) : List Path :=
  match Project.load fs c.options.config with
  | .error _ => [c.projectFile]
  | .ok p =>
    let p := p.override c.options
    c.projectFile :: p.reads ++ (p.destination c.options.output).toList

end Command

end UtilityCss
