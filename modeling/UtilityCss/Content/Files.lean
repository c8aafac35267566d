import UtilityCss.Content.Candidate
import UtilityCss.File.System

/-! The files in which class tokens are looked for. -/
namespace UtilityCss.Content

def hasExtension (extensions : List String) (p : Path) : Bool :=
  p.extension?.any extensions.contains

/-- The files that a content path stands for: itself, whatever its extension, if it is a file, and
the files below it that have one of the extensions. -/
def filesAt (fs : FileSystem) (extensions : List String) (p : Path) : List Path :=
  if fs.isFile p then [p] else (fs.filesBelow p).filter (hasExtension extensions)

def dropSame : List Path → List Path
  | a :: b :: rest => if a.same b then dropSame (a :: rest) else a :: dropSame (b :: rest)
  | short => short
termination_by l => l.length

/-- The content files, each once, in the order of paths. -/
def files (fs : FileSystem) (paths : List Path) (extensions : List String) : List Path :=
  dropSame ((paths.flatMap (filesAt fs extensions)).mergeSort Path.le)

/-- The tokens in the files, each once, ascending; or the first file that cannot be read. -/
def scan (fs : FileSystem) (files : List Path) : Except Path (List String) := do
  let texts ← files.mapM fun p => match fs.read p with
    | some text => .ok text
    | none => .error p
  return Text.distinct (texts.flatMap extractTokens)

end UtilityCss.Content
