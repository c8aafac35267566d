/-! Paths as texts, and the components that tell whether two paths are the same. -/
namespace UtilityCss

structure Path where
  text : String
  deriving DecidableEq, Repr, Inhabited

namespace Path

/-- A step of a path. Steps that stay where they are do not count, but for one at the start. -/
inductive Component where
  | root
  | current
  | parent
  | name (s : String)
  deriving DecidableEq, Repr, Inhabited

def segments (p : Path) : List String :=
  (p.text.toList.splitOn '/').map String.ofList

def isAbsolute (p : Path) : Bool := p.text.toList.head? = some '/'

def isEmpty (p : Path) : Bool := p.text.isEmpty

/-- Bytes that a name in a directory may have. -/
def nameLimit : Nat := 255

/-- Bytes that a path may have when a file system is asked about it. -/
def sizeLimit : Nat := 4095

/-- A file system takes no path with a NUL in it, and none that is too long. -/
def isUsable (p : Path) : Bool := !p.text.toList.contains '\x00' && p.text.utf8ByteSize ≤ sizeLimit

def staysPut (segment : String) : Bool := segment.isEmpty || segment = "."

def componentOf (segment : String) : Option Component :=
  if staysPut segment then none
  else if segment = ".." then some .parent
  else some (.name segment)

def components (p : Path) : List Component :=
  match p.segments with
  | [] => []
  | first :: rest =>
    let start := if p.isAbsolute then some .root
      else if first = "." then some .current
      else componentOf first
    start.toList ++ rest.filterMap componentOf

def join (p q : Path) : Path :=
  if q.isAbsolute then q
  else if p.isEmpty || p.text.toList.getLast? = some '/' then ⟨p.text ++ q.text⟩
  else ⟨p.text ++ "/" ++ q.text⟩

/-- Drops segments that stay put, last first, but not the one at the start. -/
def dropStill : List String → List String
  | a :: b :: rest => if staysPut a then dropStill (b :: rest) else a :: b :: rest
  | short => short

/-- The path without its last component; none for the root and for the empty path. -/
def parent? (p : Path) : Option Path :=
  match dropStill p.segments.reverse with
  | [] | [""] => none
  | _ :: rest =>
    match dropStill rest with
    | [""] => if p.isAbsolute then some ⟨"/"⟩ else some ⟨""⟩
    | rest => some ⟨"/".intercalate rest.reverse⟩

/-- The name of what the path leads to, if it ends in one. -/
def fileName? (p : Path) : Option String :=
  match p.components.getLast? with
  | some (.name s) => some s
  | _ => none

/-- What follows the last full stop of a name, unless the name begins with it. -/
def extensionOf (name : List Char) : Option (List Char) :=
  let back := name.reverse
  let extension := back.takeWhile (· ≠ '.')
  if extension.length + 1 < back.length then some extension.reverse else none

def extension? (p : Path) : Option String :=
  p.fileName?.bind fun name => (extensionOf name.toList).map String.ofList

namespace Component

def rank : Component → Nat
  | root => 0
  | current => 1
  | parent => 2
  | name _ => 3

def text : Component → String
  | name s => s
  | _ => ""

def lt (a b : Component) : Bool := a.rank < b.rank || (a.rank = b.rank && decide (a.text < b.text))

end Component

def componentsLe : List Component → List Component → Bool
  | [], _ => true
  | _ :: _, [] => false
  | a :: as, b :: bs => a.lt b || (a = b && componentsLe as bs)

def le (p q : Path) : Bool := componentsLe p.components q.components

def same (p q : Path) : Bool := p.components = q.components

end Path

end UtilityCss
