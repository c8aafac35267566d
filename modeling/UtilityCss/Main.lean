import UtilityCss.Command.Reads

/-!
The program. It brings the files at which a command looks in front of the command, and then writes
what the command has made of them.
-/
namespace UtilityCss.Program

def pathText (l : Location) : String := "/" ++ "/".intercalate l

/-- The entry for the file at a location; one that cannot be read holds no text. -/
def readEntry (l : Location) : IO FileEntry := do
  match ← (IO.FS.readBinFile (pathText l)).toBaseIO with
  | .error _ => return .binary .empty
  | .ok bytes => match String.fromUTF8? bytes with
    | some text => return .text text
    | none => return .binary bytes

/-- Adds what is at a location, with all below it if that is a directory. Links below a directory are
passed over. -/
partial def addBelow (t : FileTree) (l : Location) : IO FileTree := do
  let path := (← IO.currentDir) / pathText l
  if ← path.isDir then
    let mut tree := t.put l .directory
    match ← path.readDir.toBaseIO with
    | .error _ => return tree
    | .ok entries =>
      for entry in entries do
        match ← entry.path.symlinkMetadata.toBaseIO with
        | .ok m => if m.type != .symlink then tree ← addBelow tree (l ++ [entry.fileName])
        | .error _ => pure ()
      return tree
  else if ← path.pathExists then return t.put l (← readEntry l)
  else return t

def addEntry (t : FileTree) (l : Location) : IO FileTree := do
  let path := (← IO.currentDir) / pathText l
  if ← path.isDir then return t.put l .directory
  else if ← path.pathExists then return t.put l (← readEntry l)
  else return t

def addPath (fs : FileSystem) (p : Path) : IO FileSystem := do
  let mut tree := fs.tree
  let mut l := fs.start p
  for s in p.segments do
    if s = ".." then l := l.dropLast
    else if !Path.staysPut s then
      l := l ++ [s]
      tree ← addEntry tree l
  return { fs with tree := ← addBelow tree l }

def addPaths (fs : FileSystem) (paths : List Path) : IO FileSystem := paths.foldlM addPath fs

def workplace : IO FileSystem := do
  let working := ((← IO.currentDir).toString.splitOn "/").filter fun s => !s.isEmpty
  return ⟨FileTree.empty.put working .directory, working⟩

def filesFor (arguments : List String) : IO FileSystem := do
  let fs ← workplace
  match Arguments.request arguments with
  | .run command =>
    let fs ← addPaths fs [command.projectFile]
    addPaths fs (command.reads fs)
  | _ => return fs

def usage : String :=
  "usage: cube build [-c FILE] [-o FILE] [--content PATH]... [--flatten] [--compressed]\n" ++
    "       cube check [-c FILE]\n" ++
    "       cube rules [-c FILE]\n"

def run (arguments : List String) : IO UInt32 := do
  let fs ← filesFor arguments
  let outcome := Outcome.ofArguments fs arguments
  for l in fs.tree.newDirectories outcome.files.tree do
    IO.FS.createDirAll (pathText l)
  for (l, text) in fs.tree.changes outcome.files.tree do
    IO.FS.writeFile (pathText l) text
  IO.print outcome.output
  match Arguments.request arguments with
  | .help => IO.print usage
  | .misuse => IO.eprint usage
  | _ => pure ()
  match outcome.error with
  | some e => IO.eprintln ("Error: " ++ e.message)
  | none => pure ()
  return UInt32.ofNat outcome.code

end UtilityCss.Program

def main (arguments : List String) : IO UInt32 := UtilityCss.Program.run arguments
