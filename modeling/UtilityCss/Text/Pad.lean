/-! Texts brought to a width, counted in characters. -/
namespace UtilityCss.Text

def blanks (n : Nat) : String := String.ofList (List.replicate n ' ')

def padRight (width : Nat) (s : String) : String := s ++ blanks (width - s.length)

def padLeft (width : Nat) (s : String) : String := blanks (width - s.length) ++ s

/-- Blanks on both sides up to `width`; an odd one goes to the right. -/
def padBoth (width : Nat) (s : String) : String :=
  let missing := width - s.length
  blanks (missing / 2) ++ s ++ blanks (missing - missing / 2)

def truncate (width : Nat) (s : String) : String := String.ofList (s.toList.take width)

end UtilityCss.Text
