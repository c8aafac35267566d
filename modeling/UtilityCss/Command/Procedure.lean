import UtilityCss.Command.Build

/-!
What a command does, step by step: it looks at the files, changes them, and prints. What a step has
done stays done if a later one fails.
-/
namespace UtilityCss

structure World where
  files : FileSystem
  /-- What has been printed. -/
  output : String
  deriving DecidableEq, Inhabited

abbrev Procedure := ExceptT CommandError (StateM World)

namespace Procedure

variable {α : Type}

/-- The result of a procedure, and the world after it. -/
def exec (a : Procedure α) (w : World) : Except CommandError α × World := a.run.run w

def look (f : FileSystem → Except CommandError α) : Procedure α := do
  let w ← get
  f w.files

def print (text : String) : Procedure Unit := modify fun w => { w with output := w.output ++ text }

def makeDirectory (directory : Path) : Procedure Unit := do
  let w ← get
  set { w with files := w.files.afterMaking directory }
  if (w.files.makeDirectory directory).isNone then throw (.makeDirectory directory)

def write (file : Path) (text : String) : Procedure Unit := do
  let w ← get
  match w.files.write file text with
  | some files => set { w with files }
  | none => throw (.write file)

/-- Writes a file, making the directory for it if that is missing. -/
def writeOutput (file : Path) (text : String) : Procedure Unit := do
  match file.parent? with
  | some directory => if !directory.isEmpty then makeDirectory directory
  | none => pure ()
  write file text

end Procedure

end UtilityCss
