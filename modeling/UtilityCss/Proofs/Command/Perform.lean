import UtilityCss.Command.Run
import UtilityCss.Proofs.Except
import UtilityCss.Proofs.File.Change

/-!
Commands as functions of the files. One that succeeds gives what it prints and what it makes of the
files; one that fails has printed nothing, whatever it has left behind.
-/
namespace UtilityCss

structure Effect where
  output : String
  files : FileSystem
  deriving DecidableEq, Inhabited

def writeOutput (fs : FileSystem) (file : Path) (text : String) : Except CommandError FileSystem := do
  let fs ← match file.parent? with
    | none => .ok fs
    | some directory =>
      if directory.isEmpty then .ok fs
      else match fs.makeDirectory directory with
        | some fs => .ok fs
        | none => .error (.makeDirectory directory)
  match fs.write file text with
  | some fs => .ok fs
  | none => .error (.write file)

/-- What is left of writing the output when its directory is there. -/
def writeText (fs : FileSystem) (file : Path) (text : String) : Except CommandError FileSystem :=
  match fs.write file text with
  | some written => .ok written
  | none => .error (.write file)

namespace Command

def runBuild (fs : FileSystem) (o : BuildOptions) : Except CommandError Effect := do
  let p ← (Project.load fs o.config).mapError .project
  let p := p.override o
  let css ← p.stylesheet fs
  match p.destination o.output with
  | none => return ⟨css, fs⟩
  | some file => return ⟨"", ← writeOutput fs file css⟩

def runCheck (fs : FileSystem) (config : Option Path) : Except CommandError Effect := do
  let p ← (Project.load fs config).mapError .project
  let rules ← p.ruleTable
  let registry ← p.registry fs
  let report := groupReport p.config.style registry
  return ⟨lines (("rules: " ++ toString rules.size) :: report), fs⟩

def runRules (fs : FileSystem) (config : Option Path) : Except CommandError Effect := do
  let p ← (Project.load fs config).mapError .project
  let rules ← p.ruleTable
  return ⟨lines (listing rules), fs⟩

def run (fs : FileSystem) : Command → Except CommandError Effect
  | build options => runBuild fs options
  | check config => runCheck fs config
  | rules config => runRules fs config

end Command

def FileSystem.withDirectoryFor (fs : FileSystem) (file : Path) : FileSystem :=
  match file.parent? with
  | none => fs
  | some directory => if directory.isEmpty then fs else fs.afterMaking directory

namespace Procedure

variable {α β : Type}

theorem exec_bind (a : Procedure α) (f : α → Procedure β) (w : World) :
    (a >>= f).exec w =
      match a.exec w with
      | (.ok x, w') => (f x).exec w'
      | (.error e, w') => (.error e, w') := by
  rcases h : a.exec w with ⟨r, w'⟩
  unfold exec at h
  cases r <;> simp only [exec, ExceptT.run_bind, StateT.run_bind, h] <;> rfl

theorem exec_look (f : FileSystem → Except CommandError α) (w : World) :
    (look f).exec w = (f w.files, w) := rfl

theorem exec_look_bind (f : FileSystem → Except CommandError α) (a : α → Procedure β) (w : World) :
    (look f >>= a).exec w =
      match f w.files with
      | .ok x => (a x).exec w
      | .error e => (.error e, w) := by
  rw [exec_bind, exec_look]
  cases f w.files <;> rfl

theorem exec_print (text : String) (w : World) :
    (print text).exec w = (.ok (), { w with output := w.output ++ text }) := rfl

theorem exec_makeDirectory (directory : Path) (w : World) :
    (makeDirectory directory).exec w =
      (if (w.files.makeDirectory directory).isNone then .error (.makeDirectory directory) else .ok (),
        { w with files := w.files.afterMaking directory }) := by
  have hlast : (makeDirectory directory).exec w =
      (if (w.files.makeDirectory directory).isNone then throw (.makeDirectory directory)
        else pure () : Procedure Unit).exec { w with files := w.files.afterMaking directory } := rfl
  rw [hlast]
  split <;> rfl

theorem exec_write (file : Path) (text : String) (fs : FileSystem) (output : String) :
    (write file text).exec ⟨fs, output⟩ =
      match writeText fs file text with
      | .ok files => (.ok (), ⟨files, output⟩)
      | .error e => (.error e, ⟨fs, output⟩) := by
  have hlast : (write file text).exec ⟨fs, output⟩ =
      (match fs.write file text with
        | some files => set (World.mk files output)
        | none => throw (.write file) : Procedure Unit).exec ⟨fs, output⟩ := rfl
  rw [hlast, writeText]
  cases fs.write file text <;> rfl

theorem exec_writeOutput (file : Path) (text : String) (fs : FileSystem) (output : String) :
    (writeOutput file text).exec ⟨fs, output⟩ =
      match UtilityCss.writeOutput fs file text with
      | .ok files => (.ok (), ⟨files, output⟩)
      | .error e => (.error e, ⟨fs.withDirectoryFor file, output⟩) := by
  unfold writeOutput UtilityCss.writeOutput FileSystem.withDirectoryFor
  cases file.parent? with
  | none => exact exec_write file text fs output
  | some directory =>
    cases hempty : directory.isEmpty with
    | true =>
      simp only [hempty, Bool.not_true, Bool.false_eq_true, if_true, if_false]
      exact exec_write file text fs output
    | false =>
      simp only [hempty, Bool.not_false, Bool.false_eq_true, if_true, if_false, exec_bind,
        exec_makeDirectory]
      cases hmade : fs.makeDirectory directory with
      | none => rfl
      | some made =>
        obtain rfl := FileSystem.eq_afterMaking hmade
        exact exec_write file text _ output

/-- The procedure does what is said in terms of the files. After an error there may be something left
behind, but not in the output. -/
def Performs (a : Procedure Unit) (fs : FileSystem) (r : Except CommandError Effect) : Prop :=
  ∃ left, a.exec ⟨fs, ""⟩ =
    match r with
    | .ok effect => (.ok (), ⟨effect.files, effect.output⟩)
    | .error e => (.error e, ⟨left, ""⟩)

variable {fs : FileSystem}

theorem performs_look_bind {f : FileSystem → Except CommandError α} {a : α → Procedure Unit}
    {g : α → Except CommandError Effect} (h : ∀ x, (a x).Performs fs (g x)) :
    (look f >>= a).Performs fs (f fs >>= g) := by
  unfold Performs
  rw [exec_look_bind]
  cases f fs with
  | error e => exact ⟨fs, rfl⟩
  | ok x => exact h x

theorem performs_print (fs : FileSystem) (text : String) :
    (print text).Performs fs (.ok ⟨text, fs⟩) :=
  ⟨fs, by rw [exec_print, String.empty_append]⟩

theorem performs_writeOutput (fs : FileSystem) (file : Path) (text : String) :
    (writeOutput file text).Performs fs
      (UtilityCss.writeOutput fs file text >>= fun files => .ok ⟨"", files⟩) := by
  refine ⟨fs.withDirectoryFor file, ?_⟩
  rw [exec_writeOutput]
  cases UtilityCss.writeOutput fs file text <;> rfl

end Procedure

namespace Command

open Procedure (exec_look_bind performs_look_bind performs_print performs_writeOutput)

theorem performs_run (fs : FileSystem) (c : Command) : c.perform.Performs fs (c.run fs) := by
  cases c with
  | build o =>
    refine performs_look_bind fun p => performs_look_bind fun css => ?_
    cases (p.override o).destination o.output with
    | none => exact performs_print fs css
    | some file => exact performs_writeOutput fs file css
  | check config =>
    exact performs_look_bind fun p => performs_look_bind fun rules =>
      performs_look_bind fun registry => performs_print fs _
  | rules config =>
    exact performs_look_bind fun p => performs_look_bind fun rules => performs_print fs _

theorem exec_performBuild (fs : FileSystem) (o : BuildOptions) :
    (performBuild o).exec ⟨fs, ""⟩ =
      match Project.load fs o.config with
      | .error cause => (.error (.project cause), ⟨fs, ""⟩)
      | .ok p => match (p.override o).stylesheet fs with
        | .error e => (.error e, ⟨fs, ""⟩)
        | .ok css => match (p.override o).destination o.output with
          | none => (.ok (), ⟨fs, css⟩)
          | some file => (Procedure.writeOutput file css).exec ⟨fs, ""⟩ := by
  rw [performBuild, exec_look_bind]
  cases Project.load fs o.config with
  | error cause => rfl
  | ok p =>
    simp only [Except.mapError]
    rw [exec_look_bind]
    cases (p.override o).stylesheet fs with
    | error e => rfl
    | ok css =>
      cases (p.override o).destination o.output with
      | none => simp only [Procedure.exec_print, String.empty_append]
      | some file => rfl

end Command

namespace Outcome

theorem ofArguments_run {fs : FileSystem} {arguments : List String} {c : Command}
    (h : Arguments.request arguments = .run c) :
    ofArguments fs arguments = ofExec (c.perform.exec ⟨fs, ""⟩) := by
  rw [ofArguments, h]

end Outcome

end UtilityCss
