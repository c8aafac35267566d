/-!
Values as data formats have them, before anything is known of what they mean. What is only skipped
may be malformed, so that a number may have no value and a text no characters.
-/
namespace UtilityCss

inductive Data where
  | null
  | bool (b : Bool)
  /-- A number, unless it is out of range. -/
  | number (x : Option Float)
  /-- A text, unless it holds half of a surrogate pair. -/
  | text (s : Option String)
  | list (items : List Data)
  /-- Entries in the order of writing, keys that are written twice among them. -/
  | table (entries : List (Option String × Data))
  deriving Inhabited

namespace Data

def ofString (s : String) : Data := text (some s)

def keys? (entries : List (Option String × Data)) : Option (List (String × Data)) :=
  entries.mapM fun (key, value) => key.map fun key => (key, value)

end Data

end UtilityCss
