import UtilityCss.Data.Basic

/-!
Records, choices and lists in data. A record is a table with the names of its fields, or a list of
its fields in their order; names that it does not have are passed over.
-/
namespace UtilityCss.Data

/-- What formats disagree in. -/
structure Dialect where
  /-- What may stand beside the name of a choice when that is the only entry of a table. -/
  isUnit : Data → Bool
  /-- Whether a list may have more items than a record has fields. -/
  surplus : Bool

namespace Dialect

def json : Dialect where
  isUnit
    | .null => true
    | _ => false
  surplus := false

def toml : Dialect where
  isUnit
    | .table entries => entries.isEmpty
    | .list items => items.isEmpty
    | _ => false
  surplus := true

/-- Values read from TOML that share a table with fields of another record. -/
def shared : Dialect where
  isUnit
    | .table entries => entries.isEmpty
    | _ => false
  surplus := false

end Dialect

abbrev Fields := List (String × Data)

/-- The fields of a record with the given names. No field may be given twice. -/
def fields? (d : Dialect) (names : List String) : Data → Option Fields
  | table entries => do
    let known := (← keys? entries).filter fun e => names.contains e.1
    if (known.map Prod.fst).Nodup then some known else none
  | list items =>
    if d.surplus || items.length ≤ names.length then some (names.zip items) else none
  | _ => none

namespace Fields

variable {α : Type}

def required (fields : Fields) (name : String) (decode : Data → Option α) : Option α :=
  (fields.lookup name).bind decode

def optional (fields : Fields) (name : String) (default : α) (decode : Data → Option α) : Option α :=
  match fields.lookup name with
  | none => some default
  | some value => decode value

end Fields

variable {α : Type}

def string? : Data → Option String
  | text s => s
  | _ => none

def bool? : Data → Option Bool
  | bool b => some b
  | _ => none

def number? : Data → Option Float
  | number x => x
  | _ => none

def nullable? (decode : Data → Option α) : Data → Option (Option α)
  | null => some none
  | value => (decode value).map some

def list? (decode : Data → Option α) : Data → Option (List α)
  | list items => items.mapM decode
  | _ => none

/-- A table of values by name. A name that is given again takes the new value. -/
def pairs? (decode : Data → Option α) : Data → Option (List (String × α))
  | table entries => do
    (← keys? entries).mapM fun e => (decode e.2).map fun value => (e.1, value)
  | _ => none

/-- The name of a choice: a text, or the key of a table with that entry only. -/
def choice? (d : Dialect) : Data → Option String
  | text s => s
  | table [(key, value)] => if d.isUnit value then key else none
  | _ => none

def ofOption (encode : α → Data) : Option α → Data
  | none => null
  | some a => encode a

def ofFields (entries : Fields) : Data := table (entries.map fun e => (some e.1, e.2))

end UtilityCss.Data
