import UtilityCss.Text.Blank

/-! Token names made from display names. -/
namespace UtilityCss.Token

def isWordBreak (c : Char) : Bool := c = '-' || c = '_' || Text.isBlank c

/-- The slug so far, last character first, after one more character of the name. -/
def slugStep (slug : List Char) (c : Char) : List Char :=
  if c.isAlphanum then c.toLower :: slug
  else if isWordBreak c && slug.head? != some '-' then '-' :: slug
  else slug

def slugChars (name : List Char) : List Char :=
  Text.trimBoth (· = '-') ((Text.trimBoth Text.isBlank name).foldl slugStep []).reverse

/-- The token name for a display name: lower-case words of letters and digits joined by dashes. -/
def slugify (name : String) : String := String.ofList (slugChars name.toList)

end UtilityCss.Token
