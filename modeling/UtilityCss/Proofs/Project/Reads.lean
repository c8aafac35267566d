import UtilityCss.Project.Basic
import UtilityCss.Proofs.Except

/-!
What a build reads beside the content: the project file and the token files. Two file systems that
agree about them have the same project and the same registry.
-/
namespace UtilityCss

namespace Token

variable {fs gs : FileSystem} {s : Sources}

def Sources.files (s : Sources) : List Path :=
  (s.viewports.toList ++ s.groups.map GroupSource.file).map s.directory.join

theorem loadRegistry_congr (hfile : ∀ q ∈ s.files, fs.isFile q = gs.isFile q)
    (hread : ∀ q ∈ s.files, fs.read q = gs.read q) : loadRegistry fs s = loadRegistry gs s := by
  have hviewports : loadViewports fs s = loadViewports gs s := by
    rw [loadViewports, loadViewports]
    split
    · rfl
    · next file hviewports =>
      have hfile' : file ∈ s.viewports.toList := by
        rw [hviewports]
        exact List.mem_singleton_self file
      have hmem : s.directory.join file ∈ s.files :=
        List.mem_map_of_mem (List.mem_append_left _ hfile')
      simp only [readJson, hfile _ hmem, hread _ hmem]
  have hgroups : ∀ viewports : Viewports,
      s.groups.foldlM (addSource fs s.directory viewports) .empty =
        s.groups.foldlM (addSource gs s.directory viewports) .empty := by
    intro viewports
    apply foldlM_congr
    intro source hsource r
    have hmem : s.directory.join source.file ∈ s.files :=
      List.mem_map_of_mem (List.mem_append_right _ (List.mem_map_of_mem hsource))
    simp only [addSource, loadGroup, readJson, hfile _ hmem, hread _ hmem]
  simp only [loadRegistry, hviewports, hgroups]

end Token

namespace Project

variable {fs gs : FileSystem} {config : Option Path}

/-- The files that a build looks up beside the content. -/
def settingFiles (p : Project) (config : Option Path) : List Path :=
  config.getD defaultFile :: p.tokenSources.files

theorem load_congr
    (hfile : fs.isFile (config.getD defaultFile) = gs.isFile (config.getD defaultFile))
    (hread : fs.read (config.getD defaultFile) = gs.read (config.getD defaultFile)) :
    load fs config = load gs config := by
  cases config with
  | none =>
    simp only [Option.getD_none] at hfile hread
    simp only [load, readFile, hfile, hread]
  | some file =>
    simp only [Option.getD_some] at hread
    simp only [load, readFile, hread]

end Project

end UtilityCss
