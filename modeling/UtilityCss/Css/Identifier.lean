/-!
CSS identifiers. Any string can be written as one: characters that an identifier may not hold are
put behind a backslash, or given by their code point where a backslash alone would not do.
-/
namespace UtilityCss.Css.Identifier

def isPlain (c : Char) : Bool :=
  !decide (c.toNat < 128) || c = '-' || c = '_' || c.isAlphanum

def isControl (c : Char) : Bool :=
  decide (c.toNat < 0x20) || decide (c.toNat = 0x7f)

/-- A backslash, the code point in hexadecimal, and a blank that ends it. -/
def codePoint (c : Char) : List Char :=
  '\\' :: Nat.toDigits 16 c.toNat ++ [' ']

def escapeInner (c : Char) : List Char :=
  if c = '\x00' then ['\ufffd']
  else if isControl c then codePoint c
  else if isPlain c then [c]
  else ['\\', c]

/-- The written form of a character where a digit would start a number. -/
def escapeLeading (c : Char) : List Char :=
  if c.isDigit then codePoint c else escapeInner c

def escapeChars : List Char → List Char
  | [] => []
  | ['-'] => ['\\', '-']
  | '-' :: c :: rest => '-' :: escapeLeading c ++ rest.flatMap escapeInner
  | c :: rest => escapeLeading c ++ rest.flatMap escapeInner

def escape (s : String) : String := String.ofList (escapeChars s.toList)

def classSelector (token : String) : String := "." ++ escape token

def isFragmentChar (c : Char) : Bool := c.isAlphanum || c = '-' || c = '_'

/-- Text that can be spliced into the middle of an identifier as it is. -/
def isFragment (s : String) : Bool := !s.isEmpty && s.toList.all isFragmentChar

end UtilityCss.Css.Identifier
