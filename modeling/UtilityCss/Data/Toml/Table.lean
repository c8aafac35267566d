import UtilityCss.Data.Basic

/-!
Tables of TOML while they are being defined. A table is defined by a header, by the dots in a key,
or along the way by a header of a table inside it; only the last kind may still get a header of its
own, and only the second kind more dotted keys.
-/
namespace UtilityCss.Data.Toml

inductive Node where
  | value (d : Data)
  /-- A table; `implied` if it has no header, and `dotted` if it comes from the dots in a key. -/
  | table (implied dotted : Bool) (entries : List (String × Node))
  /-- Tables that share a header, last first. -/
  | tables (items : List Node)
  deriving Inhabited

namespace Node

def root : Node := table false false []

def replace (key : String) (n : Node) (entries : List (String × Node)) : List (String × Node) :=
  entries.map fun e => if e.1 = key then (key, n) else e

/-- Changes the table at the end of a path. Tables on the way are made where they are missing, and
of tables that share a header the last is taken. No dotted key leads through a table that has a
header. -/
def update (f : Node → Option Node) (dotted : Bool) : List String → Node → Option Node
  | [], n => f n
  | key :: path, .table implied isDotted entries =>
    match entries.lookup key with
    | none => do
      let n ← update f dotted path (table true dotted [])
      return table implied isDotted (entries ++ [(key, n)])
    | some (.value _) => none
    | some (.tables []) => none
    | some (.tables (last :: items)) => do
      let n ← update f dotted path last
      return table implied isDotted (replace key (.tables (n :: items)) entries)
    | some (.table innerImplied innerDotted inner) => do
      if dotted && !innerImplied then none
      else
        let n ← update f dotted path (.table innerImplied innerDotted inner)
        return table implied isDotted (replace key n entries)
  | _ :: _, _ => none

def add (t : Node) (key : String) (n : Node) : Option Node :=
  match t with
  | .table implied dotted entries =>
    if (entries.lookup key).isSome then none
    else some (.table implied dotted (entries ++ [(key, n)]))
  | _ => none

def isDotted : Node → Bool
  | .table _ dotted _ => dotted
  | _ => false

def cutPath (path : List String) : List String × String := (path.dropLast, path.getLastD "")

/-- Sets the value of a key, whose dots lead to a table that only dots have made. -/
def assign (path : List String) (d : Data) (n : Node) : Option Node :=
  let (way, key) := cutPath path
  n.update (fun t => if t.isDotted = way.isEmpty then none else t.add key (.value d)) true way

def open? (path : List String) (n : Node) : Option Node :=
  let (way, key) := cutPath path
  n.update
    (fun
      | .table implied dotted entries =>
        match entries.lookup key with
        | none => some (.table implied dotted (entries ++ [(key, root)]))
        | some (.table true false inner) =>
          some (.table implied dotted (replace key (.table false false inner) entries))
        | some _ => none
      | _ => none)
    false way

def openNext? (path : List String) (n : Node) : Option Node :=
  let (way, key) := cutPath path
  n.update
    (fun
      | .table implied dotted entries =>
        match entries.lookup key with
        | none => some (.table implied dotted (entries ++ [(key, .tables [root])]))
        | some (.tables items) =>
          some (.table implied dotted (replace key (.tables (root :: items)) entries))
        | some _ => none
      | _ => none)
    false way

mutual

def toData : Node → Data
  | value d => d
  | table _ _ entries => .table (entriesToData entries)
  | tables items => .list (itemsToData items).reverse

def entriesToData : List (String × Node) → List (Option String × Data)
  | [] => []
  | (key, n) :: rest => (some key, n.toData) :: entriesToData rest

def itemsToData : List Node → List Data
  | [] => []
  | n :: rest => n.toData :: itemsToData rest

end

end Node

end UtilityCss.Data.Toml
