import UtilityCss.Data.Toml.Scalar
import UtilityCss.Data.Toml.Table
import UtilityCss.Unicode.CharSet

/-! Reads TOML 1.0, one character at a time. Values that are not complete wait on a stack. -/
namespace UtilityCss.Data.Toml

inductive Frame where
  | line (path : List String)
  | list (items : List Data)
  /-- A table in braces, with the key that is being set in it. -/
  | inline (node : Node) (path : List String)
  deriving Inhabited

inductive KeyPlace where
  | line
  | header (several : Bool)
  | inline
  deriving DecidableEq, Repr, Inhabited

structure Quoting where
  isKey : Bool
  /-- Whether the backslash has no meaning in it. -/
  literal : Bool
  deriving DecidableEq, Repr, Inhabited

inductive Mode where
  | line
  /-- Behind all that a line may hold but a comment. -/
  | lineEnd
  | comment (next : Mode)
  /-- Behind a carriage return, which has to be followed by a line feed. -/
  | carriage (next : Mode)
  | headerOpened
  /-- Behind the first of two closing brackets of a header. -/
  | headerClosing
  | keyStart
  | bareKey (chars : List Char)
  | keyEnd
  | value
  /-- Behind the opening bracket of a list, or a comma in it. -/
  | item
  | firstKey
  | after
  | scalar (chars : List Char)
  /-- Behind a date and a blank, behind which a time may follow. -/
  | dateGap (chars : List Char)
  | quote (q : Quoting)
  | twoQuotes (literal : Bool)
  | text (q : Quoting) (chars : List Char)
  | escape (q : Quoting) (multi : Bool) (chars : List Char)
  | unicode (q : Quoting) (multi : Bool) (chars : List Char) (width : Nat) (digits : List Char)
  /-- At the start of a text of several lines, where a line break does not count. -/
  | multiStart (literal : Bool)
  | multi (literal : Bool) (chars : List Char)
  | multiQuotes (literal : Bool) (chars : List Char) (count : Nat)
  | multiCarriage (literal : Bool) (chars : List Char)
  /-- Behind a backslash and blanks, which the end of the line has to follow. -/
  | multiGap (chars : List Char)
  /-- Behind a backslash and the end of the line, where blanks and line breaks are dropped. -/
  | multiTrim (chars : List Char)
  | multiTrimCarriage (chars : List Char)
  deriving Inhabited

structure Reader where
  mode : Mode := .line
  root : Node := .root
  /-- The table that lines add to. -/
  path : List String := []
  place : KeyPlace := .line
  /-- The parts of the key being read, last first. -/
  key : List String := []
  stack : List Frame := []
  deriving Inhabited

namespace Reader

/-- Lists and tables may not be nested this deeply, nor may a key have so many parts. -/
def depthLimit : Nat := 80

def enter (r : Reader) (mode : Mode) : Reader := { r with mode }

def isBlank (c : Char) : Bool := c = ' ' || c = '\t'

/-- Control characters have no place in a text, tabs apart. -/
def isPlain (c : Char) : Bool := c = '\t' || (0x20 ≤ c.toNat && c.toNat ≠ 0x7f)

def isBareKeyChar (c : Char) : Bool := c.isAlphanum || c = '-' || c = '_'

def isQuote (literal : Bool) (c : Char) : Bool := if literal then c = '\'' else c = '"'

def complete (r : Reader) (value : Data) : Option Reader :=
  match r.stack with
  | [] => none
  | .line path :: stack => do
    let root ← r.root.update (·.assign path value) false r.path
    return { r with root, stack, mode := .lineEnd }
  | .list items :: stack => some { r with stack := .list (value :: items) :: stack, mode := .after }
  | .inline node path :: stack => do
    return { r with stack := .inline (← node.assign path value) [] :: stack, mode := .after }

def startKey (r : Reader) (place : KeyPlace) : Reader :=
  { r with mode := .keyStart, place, key := [] }

def keyStartStep (r : Reader) (c : Char) : Option Reader :=
  if isBlank c then some r
  else if c = '"' then some (r.enter (.text ⟨true, false⟩ []))
  else if c = '\'' then some (r.enter (.text ⟨true, true⟩ []))
  else if isBareKeyChar c then some (r.enter (.bareKey [c]))
  else none

def pushKey (r : Reader) (part : List Char) : Reader :=
  { r with mode := .keyEnd, key := String.ofList part :: r.key }

/-- Behind a whole key; `c` ends it. -/
def endKey (r : Reader) (c : Char) : Option Reader :=
  let path := r.key.reverse
  if depthLimit ≤ path.length then none
  else match r.place with
    | .line => if c = '=' then some { r with mode := .value, stack := [.line path] } else none
    | .inline =>
      match r.stack with
      | .inline node _ :: stack =>
        if c = '=' then some { r with mode := .value, stack := .inline node path :: stack } else none
      | _ => none
    | .header false =>
      if c = ']' then do
        return { r with root := ← r.root.open? path, path, mode := .lineEnd }
      else none
    | .header true => if c = ']' then some (r.enter .headerClosing) else none

def keyEndStep (r : Reader) (c : Char) : Option Reader :=
  if isBlank c then some r
  else if c = '.' then some (r.enter .keyStart)
  else r.endKey c

def headerClosingStep (r : Reader) (c : Char) : Option Reader :=
  if c = ']' then do
    let path := r.key.reverse
    return { r with root := ← r.root.openNext? path, path, mode := .lineEnd }
  else none

/-- A step where a line may end: at its end it goes on with `next`. -/
def breakStep (r : Reader) (next : Mode) (c : Char) : Option Reader :=
  if isBlank c then some r
  else if c = '#' then some (r.enter (.comment next))
  else if c = '\n' then some (r.enter next)
  else if c = '\r' then some (r.enter (.carriage next))
  else none

def isBreak (c : Char) : Bool := isBlank c || c = '#' || c = '\n' || c = '\r'

def lineStep (r : Reader) (c : Char) : Option Reader :=
  if isBreak c then r.breakStep .line c
  else if c = '[' then some (r.enter .headerOpened)
  else (r.startKey .line).keyStartStep c

def headerOpenedStep (r : Reader) (c : Char) : Option Reader :=
  if c = '[' then some (r.startKey (.header true)) else (r.startKey (.header false)).keyStartStep c

def openFrame (r : Reader) (f : Frame) (mode : Mode) : Option Reader :=
  if depthLimit ≤ r.stack.length then none else some { r with stack := f :: r.stack, mode }

def isScalarEnd (c : Char) : Bool := isBreak c || c = ',' || c = ']' || c = '}'

def valueStep (r : Reader) (c : Char) : Option Reader :=
  if c = '"' then some (r.enter (.quote ⟨false, false⟩))
  else if c = '\'' then some (r.enter (.quote ⟨false, true⟩))
  else if c = '[' then r.openFrame (.list []) .item
  else if c = '{' then r.openFrame (.inline .root []) .firstKey
  else if isScalarEnd c then none
  else some (r.enter (.scalar [c]))

def closeList (r : Reader) : Option Reader :=
  match r.stack with
  | .list items :: stack => { r with stack }.complete (.list items.reverse)
  | _ => none

def closeInline (r : Reader) : Option Reader :=
  match r.stack with
  | .inline node _ :: stack => { r with stack }.complete node.toData
  | _ => none

def itemStep (r : Reader) (c : Char) : Option Reader :=
  if isBreak c then r.breakStep .item c
  else if c = ']' then r.closeList
  else r.valueStep c

def firstKeyStep (r : Reader) (c : Char) : Option Reader :=
  if isBlank c then some r
  else if c = '}' then r.closeInline
  else (r.startKey .inline).keyStartStep c

/-- Line breaks may stand in a list, but not in a table in braces. -/
def afterStep (r : Reader) (c : Char) : Option Reader :=
  match r.stack with
  | .list _ :: _ =>
    if isBreak c then r.breakStep .after c
    else if c = ',' then some (r.enter .item)
    else if c = ']' then r.closeList
    else none
  | .inline .. :: _ =>
    if isBlank c then some r
    else if c = ',' then some (r.startKey .inline)
    else if c = '}' then r.closeInline
    else none
  | _ => none

/-- A step behind a value that has just been put where it belongs. -/
def followStep (r : Reader) (c : Char) : Option Reader :=
  match r.mode with
  | .lineEnd => r.breakStep .line c
  | _ => r.afterStep c

def endScalar (r : Reader) (chars : List Char) : Option Reader :=
  (scalar? chars.reverse).bind r.complete

def scalarStep (r : Reader) (chars : List Char) (c : Char) : Option Reader :=
  if c = ' ' && isDate chars.reverse then some (r.enter (.dateGap chars))
  else if isScalarEnd c then (r.endScalar chars).bind fun r => r.followStep c
  else some (r.enter (.scalar (c :: chars)))

def dateGapStep (r : Reader) (chars : List Char) (c : Char) : Option Reader :=
  if c.isDigit then some (r.enter (.scalar (c :: ' ' :: chars)))
  else (r.endScalar chars).bind fun r => r.followStep c

def endText (r : Reader) (isKey : Bool) (chars : List Char) : Option Reader :=
  if isKey then some (r.pushKey chars.reverse)
  else r.complete (.ofString (String.ofList chars.reverse))

def resume (r : Reader) (q : Quoting) (multi : Bool) (chars : List Char) : Reader :=
  r.enter (if multi then .multi q.literal chars else .text q chars)

def textStep (r : Reader) (q : Quoting) (chars : List Char) (c : Char) : Option Reader :=
  if isQuote q.literal c then r.endText q.isKey chars
  else if c = '\\' && !q.literal then some (r.enter (.escape q false chars))
  else if isPlain c then some (r.enter (.text q (c :: chars)))
  else none

def escapeStep (r : Reader) (q : Quoting) (multi : Bool) (chars : List Char) (c : Char) :
    Option Reader :=
  let push (c : Char) := some (r.resume q multi (c :: chars))
  match c with
  | 'b' => push '\x08'
  | 't' => push '\t'
  | 'n' => push '\n'
  | 'f' => push '\x0c'
  | 'r' => push '\r'
  | '"' => push '"'
  | '\\' => push '\\'
  | 'u' => some (r.enter (.unicode q multi chars 4 []))
  | 'U' => some (r.enter (.unicode q multi chars 8 []))
  | '\n' => if multi then some (r.enter (.multiTrim chars)) else none
  | '\r' => if multi then some (r.enter (.multiTrimCarriage chars)) else none
  | c => if multi && isBlank c then some (r.enter (.multiGap chars)) else none

def unicodeStep (r : Reader) (q : Quoting) (multi : Bool) (chars : List Char) (width : Nat)
    (digits : List Char) (c : Char) : Option Reader :=
  let digits := digits ++ [c]
  let code := Unicode.CharSet.hexNumber digits
  if !isHexDigit c then none
  else if digits.length < width then some (r.enter (.unicode q multi chars width digits))
  else if code.isValidChar then some (r.resume q multi (Char.ofNat code :: chars))
  else none

def multiStep (r : Reader) (literal : Bool) (chars : List Char) (c : Char) : Option Reader :=
  if isQuote literal c then some (r.enter (.multiQuotes literal chars 1))
  else if c = '\\' && !literal then some (r.enter (.escape ⟨false, false⟩ true chars))
  else if c = '\r' then some (r.enter (.multiCarriage literal chars))
  else if c = '\n' || isPlain c then some (r.enter (.multi literal (c :: chars)))
  else none

def withQuotes (literal : Bool) (chars : List Char) (count : Nat) : List Char :=
  List.replicate count (if literal then '\'' else '"') ++ chars

/-- Three quotes end a text of several lines, and up to two more of them belong to it. -/
def multiQuotesStep (r : Reader) (literal : Bool) (chars : List Char) (count : Nat) (c : Char) :
    Option Reader :=
  if isQuote literal c then
    if count < 4 then some (r.enter (.multiQuotes literal chars (count + 1)))
    else r.endText false (withQuotes literal chars 2)
  else if count < 3 then r.multiStep literal (withQuotes literal chars count) c
  else (r.endText false (withQuotes literal chars (count - 3))).bind fun r => r.followStep c

def multiTrimStep (r : Reader) (chars : List Char) (c : Char) : Option Reader :=
  if isBlank c || c = '\n' then some r
  else if c = '\r' then some (r.enter (.multiTrimCarriage chars))
  else r.multiStep false chars c

def step (r : Reader) (c : Char) : Option Reader :=
  match r.mode with
  | .line => r.lineStep c
  | .lineEnd => r.breakStep .line c
  | .comment next =>
    if c = '\n' then some (r.enter next)
    else if c = '\r' then some (r.enter (.carriage next))
    else if isPlain c then some r
    else none
  | .carriage next => if c = '\n' then some (r.enter next) else none
  | .headerOpened => r.headerOpenedStep c
  | .headerClosing => r.headerClosingStep c
  | .keyStart => r.keyStartStep c
  | .bareKey chars =>
    if isBareKeyChar c then some (r.enter (.bareKey (c :: chars)))
    else (r.pushKey chars.reverse).keyEndStep c
  | .keyEnd => r.keyEndStep c
  | .value => if isBlank c then some r else r.valueStep c
  | .item => r.itemStep c
  | .firstKey => r.firstKeyStep c
  | .after => r.afterStep c
  | .scalar chars => r.scalarStep chars c
  | .dateGap chars => r.dateGapStep chars c
  | .quote q =>
    if isQuote q.literal c then some (r.enter (.twoQuotes q.literal)) else r.textStep q [] c
  | .twoQuotes literal =>
    if isQuote literal c then some (r.enter (.multiStart literal))
    else (r.endText false []).bind fun r => r.followStep c
  | .text q chars => r.textStep q chars c
  | .escape q multi chars => r.escapeStep q multi chars c
  | .unicode q multi chars width digits => r.unicodeStep q multi chars width digits c
  | .multiStart literal =>
    if c = '\n' then some (r.enter (.multi literal []))
    else if c = '\r' then some (r.enter (.carriage (.multi literal [])))
    else r.multiStep literal [] c
  | .multi literal chars => r.multiStep literal chars c
  | .multiQuotes literal chars count => r.multiQuotesStep literal chars count c
  | .multiCarriage literal chars =>
    if c = '\n' then some (r.enter (.multi literal ('\n' :: chars))) else none
  | .multiGap chars =>
    if isBlank c then some r
    else if c = '\n' then some (r.enter (.multiTrim chars))
    else if c = '\r' then some (r.enter (.multiTrimCarriage chars))
    else none
  | .multiTrim chars => r.multiTrimStep chars c
  | .multiTrimCarriage chars => if c = '\n' then some (r.enter (.multiTrim chars)) else none

def finish (r : Reader) : Option Data := do
  let r ← match r.mode with
    | .scalar chars | .dateGap chars => r.endScalar chars
    | .twoQuotes _ => r.endText false []
    | .multiQuotes literal chars count =>
      if count < 3 then none else r.endText false (withQuotes literal chars (count - 3))
    | .comment .line => some (r.enter .line)
    | _ => some r
  match r.mode with
  | .line | .lineEnd => some r.root.toData
  | _ => none

end Reader

end UtilityCss.Data.Toml

namespace UtilityCss.Data

/-- The table that a TOML text stands for. A byte order mark in front of it is dropped. -/
def ofToml? (text : String) : Option Data := do
  let chars := match text.toList with
    | '\ufeff' :: rest => rest
    | chars => chars
  (← chars.foldlM Toml.Reader.step {}).finish

end UtilityCss.Data
