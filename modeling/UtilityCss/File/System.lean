import UtilityCss.File.Path

/-!
Files by the names that lead to them from the root. A directory is there if it is an entry, or if
anything is below it.
-/
namespace UtilityCss

local instance byteArrayDecidableEq : DecidableEq ByteArray := ByteArray.instDecidableEq

inductive FileEntry where
  | text (s : String)
  /-- A file that holds no text. -/
  | binary (bytes : ByteArray)
  | directory
  deriving DecidableEq, Inhabited

/-- The names that lead from the root to a file or a directory. -/
abbrev Location := List String

structure FileTree where
  entries : List (Location × FileEntry)
  deriving DecidableEq, Inhabited

namespace FileTree

def empty : FileTree := ⟨[]⟩

def get? (t : FileTree) (l : Location) : Option FileEntry := t.entries.lookup l

def isFile (t : FileTree) (l : Location) : Bool :=
  match t.get? l with
  | some (.text _) | some (.binary _) => true
  | _ => false

def isBelow (l below : Location) : Bool := l.isPrefixOf below && l.length < below.length

def isDirectory (t : FileTree) (l : Location) : Bool :=
  match t.get? l with
  | some .directory => true
  | some _ => false
  | none => l.isEmpty || t.entries.any fun e => isBelow l e.1

def isPresent (t : FileTree) (l : Location) : Bool := t.isFile l || t.isDirectory l

def text? (t : FileTree) (l : Location) : Option String :=
  match t.get? l with
  | some (.text s) => some s
  | _ => none

def putEntry (l : Location) (e : FileEntry) : List (Location × FileEntry) →
    List (Location × FileEntry)
  | [] => [(l, e)]
  | (k, d) :: rest => if k = l then (l, e) :: rest else (k, d) :: putEntry l e rest

def put (t : FileTree) (l : Location) (e : FileEntry) : FileTree := ⟨putEntry l e t.entries⟩

/-- The files below a directory, each by the names that lead to it from there. -/
def filesBelow (t : FileTree) (l : Location) : List Location :=
  (t.entries.filter fun e => isBelow l e.1 && t.isFile e.1).map fun e => e.1.drop l.length

/-- The texts of the files that are not the same in an earlier tree. -/
def changes (before after : FileTree) : List (Location × String) :=
  after.entries.filterMap fun e =>
    match e.2 with
    | .text s => if before.get? e.1 = some (.text s) then none else some (e.1, s)
    | _ => none

/-- The directories that are not in an earlier tree. -/
def newDirectories (before after : FileTree) : List Location :=
  after.entries.filterMap fun e =>
    if e.2 = .directory && !before.isDirectory e.1 then some e.1 else none

/-- The location at the end of some segments. Each of them has to be taken in a directory. -/
def follow (t : FileTree) (l : Location) : List String → Option Location
  | [] => some l
  | s :: rest =>
    if !t.isDirectory l then none
    else if Path.staysPut s then follow t l rest
    else if s = ".." then follow t l.dropLast rest
    else follow t (l ++ [s]) rest

/-- The location at the end of some segments, with the directories on the way made where they are
missing. What has been made stays, also where there is no way to the end: at a file, or at a name
that is too long. -/
def makeDirectories (t : FileTree) (l : Location) : List String → FileTree × Option Location
  | [] => (t, some l)
  | s :: rest =>
    if Path.staysPut s then makeDirectories t l rest
    else if s = ".." then makeDirectories t l.dropLast rest
    else
      let child := l ++ [s]
      if t.isFile child then (t, none)
      else if t.isDirectory child then makeDirectories t child rest
      else if Path.nameLimit < s.utf8ByteSize then (t, none)
      else makeDirectories (t.put child .directory) child rest

end FileTree

structure FileSystem where
  tree : FileTree
  working : Location
  deriving DecidableEq, Inhabited

namespace FileSystem

def start (fs : FileSystem) (p : Path) : Location := if p.isAbsolute then [] else fs.working

def locate (fs : FileSystem) (p : Path) : Option Location :=
  if p.isEmpty then none
  else (fs.tree.follow (fs.start p) p.segments).filter fs.tree.isPresent

def isFile (fs : FileSystem) (p : Path) : Bool := (fs.locate p).any fs.tree.isFile

def isPresent (fs : FileSystem) (p : Path) : Bool := (fs.locate p).isSome

def read (fs : FileSystem) (p : Path) : Option String := (fs.locate p).bind fs.tree.text?

/-- The files below the directory at a path, by paths that begin with it. -/
def filesBelow (fs : FileSystem) (p : Path) : List Path :=
  match fs.locate p with
  | some l => (fs.tree.filesBelow l).map fun names => names.foldl (fun p name => p.join ⟨name⟩) p
  | none => []

/-- What is there when the directory at a path has been asked for, with those on the way to it. -/
def afterMaking (fs : FileSystem) (p : Path) : FileSystem :=
  if p.isUsable then { fs with tree := (fs.tree.makeDirectories (fs.start p) p.segments).1 } else fs

/-- Makes the directory at a path, with those on the way to it. -/
def makeDirectory (fs : FileSystem) (p : Path) : Option FileSystem :=
  if p.isUsable && (fs.tree.makeDirectories (fs.start p) p.segments).2.isSome then
    some (fs.afterMaking p)
  else none

/-- The location for a file at the end of a path: in a directory that is there, where no directory
is, under a name that is not too long. -/
def locateNew (fs : FileSystem) (p : Path) : Option Location :=
  match p.segments.getLast? with
  | none => none
  | some name =>
    if Path.staysPut name || name = ".." || Path.nameLimit < name.utf8ByteSize then none
    else
      match fs.tree.follow (fs.start p) p.segments.dropLast with
      | none => none
      | some directory =>
        let l := directory ++ [name]
        if fs.tree.isDirectory directory && !fs.tree.isDirectory l then some l else none

/-- Writes the file at a path, whose directory has to be there. -/
def write (fs : FileSystem) (p : Path) (text : String) : Option FileSystem :=
  if p.isUsable then
    (fs.locateNew p).map fun l => { fs with tree := fs.tree.put l (.text text) }
  else none

end FileSystem

end UtilityCss
