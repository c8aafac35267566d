import UtilityCss.Unicode.Property

/-! Texts between quotation marks, with escapes for what would not be seen or would end them. -/
namespace UtilityCss.Text

open Unicode (CharSet)

/-- Characters that leave no mark of their own: controls, formats, separators, and code points
without a character. The blank is not among them. -/
def invisible : CharSet :=
  (CharSet.unions [Unicode.Category.other, Unicode.Category.separator]).diff (.ofChar ' ')

def braced (c : Char) : List Char :=
  '\\' :: 'u' :: '{' :: Nat.toDigits 16 c.toNat ++ ['}']

/-- The written form of a character inside quotation marks. Characters that join the one before
them are escaped too. -/
def quotedChar (c : Char) : List Char :=
  match c with
  | '\x00' => ['\\', '0']
  | '\t' => ['\\', 't']
  | '\r' => ['\\', 'r']
  | '\n' => ['\\', 'n']
  | '"' => ['\\', '"']
  | '\\' => ['\\', '\\']
  | c =>
    if invisible.contains c || Unicode.Property.graphemeExtend.contains c then braced c else [c]

def quoted (s : String) : String :=
  "\"" ++ String.ofList (s.toList.flatMap quotedChar) ++ "\""

end UtilityCss.Text
