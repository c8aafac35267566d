import UtilityCss.Regex.Error
import UtilityCss.Regex.Token
import UtilityCss.Text.Blank
import UtilityCss.Unicode.Property

/-!
Reads the tokens of a pattern text, one character at a time. What is behind the reader has no
effect but through its state, so that reading a text in two pieces is reading it in one.
-/
namespace UtilityCss.Regex

/-- Where an escape stands, and so where its value goes. -/
inductive Place where
  | sequence
  | classItem
  | rangeEnd (low : Literal)
  deriving DecidableEq, Repr, Inhabited

/-- A class whose closing bracket has not been read. -/
structure ClassFrame where
  negated : Bool
  /-- The operand in front of the last operator, with that operator. -/
  pending : Option (ClassSet × SetOperator) := none
  members : ClassSet := .empty
  deriving DecidableEq, Repr, Inhabited

namespace ClassFrame

def add (f : ClassFrame) (item : ClassSet) : ClassFrame :=
  { f with members := match f.members with
      | .empty => item
      | members => .union members item }

def set (f : ClassFrame) : ClassSet :=
  match f.pending with
  | none => f.members
  | some (left, operator) => .binary operator left f.members

/-- Operators have one precedence and associate to the left. -/
def operate (f : ClassFrame) (operator : SetOperator) : ClassFrame :=
  { f with pending := some (f.set, operator), members := .empty }

def close (f : ClassFrame) : ClassSet := .bracketed f.negated f.set

end ClassFrame

inductive Mode where
  | sequence
  /-- Behind `?`, `*` or `+`. -/
  | repetition (min : Nat) (max : Option Nat)
  | counted (min : Nat) (max : Option Nat)
  /-- In the first number of a repetition; `ended` once a blank has ended its digits. -/
  | countMin (digits : List Char) (ended : Bool)
  /-- Behind the comma of a repetition; `seen` once anything has followed it. -/
  | countMax (min : Nat) (digits : List Char) (ended : Bool) (seen : Bool)
  | opened
  | openedQuestion
  | openedName
  | groupName (chars : List Char)
  /-- In the flags of a group head; `minus` is the place of the minus sign, if there is one. -/
  | flags (items : FlagChange) (value : Bool) (dangling : Bool)
  | escape (place : Place)
  | hexStart (place : Place) (width : Nat)
  | hexDigits (place : Place) (width : Nat) (digits : List Char)
  | hexBraced (place : Place) (digits : List Char)
  | propertyStart (place : Place) (negated : Bool)
  | propertyBraced (place : Place) (negated : Bool) (chars : List Char)
  /-- Behind a word boundary, which a name in braces may make more special. -/
  | boundary
  | boundaryOpened
  | boundaryName (chars : List Char)
  | classStart (caret : Bool)
  | classDashes
  | classBody
  /-- Behind a bracket in a class, in what may become a class name. -/
  | className (chars : List Char)
  /-- Behind a character that makes an operator if it is doubled. -/
  | classOperator (operator : SetOperator)
  | afterItem (item : ClassSet)
  /-- Behind an item and a dash; `adjacent` while nothing has been passed over since. -/
  | afterDash (item : ClassSet) (adjacent : Bool)
  /-- Behind an item, a dash, and the start of a comment; `inside` until that comment ends. -/
  | dashComment (item : ClassSet) (inside : Bool)
  | rangeEnd (low : Literal)
  deriving Repr, Inhabited

/-- Whether blanks and comments are passed over here when they are anywhere. -/
def Mode.skips : Mode → Bool
  | repetition .. | openedQuestion | openedName | groupName .. | flags .. | escape .. | boundary
  | className .. | classOperator .. | dashComment .. => false
  | _ => true

structure Reader where
  mode : Mode := .sequence
  comment : Bool := false
  /-- Whether blanks and comments are passed over at present. -/
  extended : Bool := false
  /-- The same for each group around, innermost first. -/
  saved : List Bool := []
  classes : List ClassFrame := []
  /-- The tokens read, last first. -/
  tokens : List Token := []
  deriving Repr, Inhabited

namespace Reader

def enter (r : Reader) (mode : Mode) : Reader := { r with mode }

def emit (r : Reader) (t : Token) : Reader := { r with mode := .sequence, tokens := t :: r.tokens }

def emitAtom (r : Reader) (a : Atom) : Reader := r.emit (.atom a)

def openGroup (r : Reader) (head : Opening) : Reader :=
  let extended := match head with
    | .capture _ => r.extended
    | .scoped change => (change.value? .extended).getD r.extended
  { r.emit (.opening head) with extended, saved := r.extended :: r.saved }

def closeGroup (r : Reader) : Reader :=
  { r.emit .closing with extended := r.saved.headD r.extended, saved := r.saved.tail }

def setFlags (r : Reader) (change : FlagChange) : Reader :=
  { r.emit (.flags change) with extended := (change.value? .extended).getD r.extended }

def isNameStart (c : Char) : Bool := c = '_' || Unicode.Property.alphabetic.contains c

def isNameChar (c : Char) : Bool :=
  isNameStart c || c = '.' || c = '[' || c = ']' || Unicode.Category.number.contains c

def groupNameStep (r : Reader) (chars : List Char) (c : Char) : Except Error Reader :=
  if c = '>' then
    if chars.isEmpty then .error .invalidGroupName
    else .ok (r.openGroup (.capture (some chars.reverse)))
  else if if chars.isEmpty then isNameStart c else isNameChar c then
    .ok (r.enter (.groupName (c :: chars)))
  else .error .invalidGroupName

def flagsStep (r : Reader) (items : FlagChange) (value dangling : Bool) (c : Char) :
    Except Error Reader :=
  if c = ')' then
    if dangling || items.isEmpty then .error .incompleteFlags else .ok (r.setFlags items.reverse)
  else if c = ':' then
    if dangling then .error .incompleteFlags else .ok (r.openGroup (.scoped items.reverse))
  else if c = '-' then
    if value then .ok (r.enter (.flags items false true)) else .error .repeatedFlag
  else match Flag.ofChar? c with
    | none => .error .unknownFlag
    | some flag =>
      if (items.lookup flag).isSome then .error .repeatedFlag
      else .ok (r.enter (.flags ((flag, value) :: items) value false))

def openedQuestionStep (r : Reader) (c : Char) : Except Error Reader :=
  if c = 'P' then .ok (r.enter .openedName)
  else if c = '<' then .ok (r.enter (.groupName []))
  else r.flagsStep [] true false c

def addItem (r : Reader) (item : ClassSet) : Reader :=
  { r with
    mode := .classBody
    classes := match r.classes with
      | f :: rest => f.add item :: rest
      | [] => [] }

def openClass (r : Reader) : Reader :=
  { r with mode := .classStart false, classes := ⟨false, none, .empty⟩ :: r.classes }

def negateClass (r : Reader) : Reader :=
  { r with
    mode := .classStart true
    classes := match r.classes with
      | f :: rest => { f with negated := true } :: rest
      | [] => [] }

def operateClass (r : Reader) (operator : SetOperator) : Reader :=
  { r with
    mode := .classBody
    classes := match r.classes with
      | f :: rest => f.operate operator :: rest
      | [] => [] }

def closeClass (r : Reader) : Reader :=
  match r.classes with
  | [] => r.enter .sequence
  | [f] => { r with classes := [] }.emitAtom (.bracketed f.negated f.set)
  | f :: rest => { r with classes := rest }.addItem f.close

def deliverLiteral (r : Reader) (place : Place) (l : Literal) : Except Error Reader :=
  match place with
  | .sequence => .ok (r.emitAtom (.literal l))
  | .classItem => .ok (r.enter (.afterItem (.literal l)))
  | .rangeEnd low => if low.char ≤ l.char then .ok (r.addItem (.range low l)) else .error .invalidRange

def deliverShort (r : Reader) (place : Place) (kind : ShortClass) (negated : Bool) :
    Except Error Reader :=
  match place with
  | .sequence => .ok (r.emitAtom (.short kind negated))
  | .classItem => .ok (r.enter (.afterItem (.short kind negated)))
  | .rangeEnd _ => .error .invalidRange

def deliverProperty (r : Reader) (place : Place) (query : PropertyQuery) (negated : Bool) :
    Except Error Reader :=
  match place with
  | .sequence => .ok (r.emitAtom (.property query negated))
  | .classItem => .ok (r.enter (.afterItem (.property query negated)))
  | .rangeEnd _ => .error .invalidRange

def deliverAssertion (r : Reader) (place : Place) (a : Assertion) : Except Error Reader :=
  match place with
  | .sequence => .ok (r.emitAtom (.assertion a))
  | _ => .error .invalidEscape

def isEscapable (c : Char) : Bool :=
  decide (c.toNat < 128) && !c.isAlphanum && c ≠ '<' && c ≠ '>'

def escapeStep (r : Reader) (place : Place) (c : Char) : Except Error Reader :=
  match c with
  | 'x' => .ok (r.enter (.hexStart place 2))
  | 'u' => .ok (r.enter (.hexStart place 4))
  | 'U' => .ok (r.enter (.hexStart place 8))
  | 'p' => .ok (r.enter (.propertyStart place false))
  | 'P' => .ok (r.enter (.propertyStart place true))
  | 'd' => r.deliverShort place .digit false
  | 's' => r.deliverShort place .space false
  | 'w' => r.deliverShort place .word false
  | 'D' => r.deliverShort place .digit true
  | 'S' => r.deliverShort place .space true
  | 'W' => r.deliverShort place .word true
  | 'a' => r.deliverLiteral place ⟨'\x07', false⟩
  | 'f' => r.deliverLiteral place ⟨'\x0c', false⟩
  | 't' => r.deliverLiteral place ⟨'\t', false⟩
  | 'n' => r.deliverLiteral place ⟨'\n', false⟩
  | 'r' => r.deliverLiteral place ⟨'\r', false⟩
  | 'v' => r.deliverLiteral place ⟨'\x0b', false⟩
  | 'A' => r.deliverAssertion place .textStart
  | 'z' => r.deliverAssertion place .textEnd
  | 'B' => r.deliverAssertion place (.word .notBoundary)
  | '<' => r.deliverAssertion place (.word .start)
  | '>' => r.deliverAssertion place (.word .finish)
  | 'b' => match place with
    | .sequence => .ok (r.enter .boundary)
    | _ => .error .invalidEscape
  | c => if isEscapable c then r.deliverLiteral place ⟨c, false⟩ else .error .invalidEscape

def isHexDigit (c : Char) : Bool :=
  c.isDigit || ('a' ≤ c && c ≤ 'f') || ('A' ≤ c && c ≤ 'F')

def deliverCode (r : Reader) (place : Place) (byte : Bool) (n : Nat) : Except Error Reader :=
  if n.isValidChar then r.deliverLiteral place ⟨Char.ofNat n, byte⟩ else .error .invalidCodePoint

def hexDigitsStep (r : Reader) (place : Place) (width : Nat) (digits : List Char) (c : Char) :
    Except Error Reader :=
  let digits := c :: digits
  if !isHexDigit c then .error .invalidCodePoint
  else if digits.length < width then .ok (r.enter (.hexDigits place width digits))
  else r.deliverCode place (width = 2) (Unicode.CharSet.hexNumber digits.reverse)

def hexStartStep (r : Reader) (place : Place) (width : Nat) (c : Char) : Except Error Reader :=
  if c = '{' then .ok (r.enter (.hexBraced place [])) else r.hexDigitsStep place width [] c

def hexBracedStep (r : Reader) (place : Place) (digits : List Char) (c : Char) :
    Except Error Reader :=
  if c = '}' then
    if digits.isEmpty then .error .invalidCodePoint
    else r.deliverCode place false (Unicode.CharSet.hexNumber digits.reverse)
  else if isHexDigit c then .ok (r.enter (.hexBraced place (c :: digits)))
  else .error .invalidCodePoint

def cutAt (mark : List Char) : List Char → Option (List Char × List Char)
  | [] => none
  | c :: rest =>
    if mark.isPrefixOf (c :: rest) then some ([], (c :: rest).drop mark.length)
    else (cutAt mark rest).map fun (front, back) => (c :: front, back)

def propertyQuery (text : List Char) : PropertyQuery :=
  match cutAt ['!', '='] text <|> cutAt [':'] text <|> cutAt ['='] text with
  | some (name, value) => .valued name value
  | none => .named text

def propertyStartStep (r : Reader) (place : Place) (negated : Bool) (c : Char) :
    Except Error Reader :=
  if c = '{' then .ok (r.enter (.propertyBraced place negated []))
  else if c = '\\' then .error .unknownProperty
  else r.deliverProperty place (.named [c]) negated

def propertyBracedStep (r : Reader) (place : Place) (negated : Bool) (chars : List Char) (c : Char) :
    Except Error Reader :=
  if c = '}' then r.deliverProperty place (propertyQuery chars.reverse) negated
  else .ok (r.enter (.propertyBraced place negated (c :: chars)))

def countLimit : Nat := Nat.pow 2 32 - 1

def count? (digits : List Char) : Option Nat :=
  let n := digits.foldr (fun c n => 10 * n + (c.toNat - '0'.toNat)) 0
  if digits.isEmpty || n > countLimit then none else some n

def countMinStep (r : Reader) (digits : List Char) (ended : Bool) (c : Char) : Except Error Reader :=
  if c.isDigit && !ended then .ok (r.enter (.countMin (c :: digits) false))
  else if Text.isBlank c then .ok (r.enter (.countMin digits (!digits.isEmpty)))
  else match count? digits with
    | none => .error .invalidCount
    | some n =>
      if c = ',' then .ok (r.enter (.countMax n [] false false))
      else if c = '}' then .ok (r.enter (.counted n (some n)))
      else .error .invalidCount

def countMaxStep (r : Reader) (min : Nat) (digits : List Char) (ended seen : Bool) (c : Char) :
    Except Error Reader :=
  if c.isDigit && !ended then .ok (r.enter (.countMax min (c :: digits) false true))
  else if Text.isBlank c then .ok (r.enter (.countMax min digits (!digits.isEmpty) true))
  else if c ≠ '}' then .error .invalidCount
  else if !seen then .ok (r.enter (.counted min none))
  else match count? digits with
    | none => .error .invalidCount
    | some max => if min ≤ max then .ok (r.enter (.counted min (some max))) else .error .invalidCount

def sequenceStep (r : Reader) (c : Char) : Reader :=
  match c with
  | '(' => r.enter .opened
  | ')' => r.closeGroup
  | '|' => r.emit .bar
  | '[' => r.openClass
  | '?' => r.enter (.repetition 0 (some 1))
  | '*' => r.enter (.repetition 0 none)
  | '+' => r.enter (.repetition 1 none)
  | '{' => r.enter (.countMin [] false)
  | '\\' => r.enter (.escape .sequence)
  | '.' => r.emitAtom .dot
  | '^' => r.emitAtom .lineStart
  | '$' => r.emitAtom .lineEnd
  | c => r.emitAtom (.literal ⟨c, false⟩)

def classBodyStep (r : Reader) (c : Char) : Reader :=
  match c with
  | '[' => r.enter (.className [])
  | ']' => r.closeClass
  | '&' => r.enter (.classOperator .intersection)
  | '-' => r.enter (.classOperator .difference)
  | '~' => r.enter (.classOperator .symmetricDifference)
  | '\\' => r.enter (.escape .classItem)
  | c => r.enter (.afterItem (.literal ⟨c, false⟩))

def classDashesStep (r : Reader) (c : Char) : Reader :=
  if c = '-' then (r.addItem (.literal ⟨'-', false⟩)).enter .classDashes else r.classBodyStep c

/-- A closing bracket right at the start of a class is a member. -/
def classStartStep (r : Reader) (caret : Bool) (c : Char) : Reader :=
  if c = '^' && !caret then r.negateClass
  else if c = ']' then r.addItem (.literal ⟨']', false⟩)
  else r.classDashesStep c

def rangeEndStep (r : Reader) (low : Literal) (c : Char) : Except Error Reader :=
  if c = '\\' then .ok (r.enter (.escape (.rangeEnd low)))
  else r.deliverLiteral (.rangeEnd low) ⟨c, false⟩

def rangeStart (r : Reader) : ClassSet → Except Error Reader
  | .literal low => .ok (r.enter (.rangeEnd low))
  | _ => .error .invalidRange

/-- A dash in front of the closing bracket is a member; two dashes make an operator. -/
def afterDashStep (r : Reader) (item : ClassSet) (adjacent : Bool) (c : Char) :
    Except Error Reader :=
  if c = ']' then .ok ((r.addItem item).addItem (.literal ⟨'-', false⟩)).closeClass
  else if c = '-' then
    if adjacent then .ok ((r.addItem item).operateClass .difference)
    else .ok ((r.addItem item).enter (.afterDash (.literal ⟨'-', false⟩) true))
  else do
    let r ← r.rangeStart item
    match r.mode with
    | .rangeEnd low => r.rangeEndStep low c
    | _ => .ok r

def afterItemStep (r : Reader) (item : ClassSet) (c : Char) : Reader :=
  if c = '-' then r.enter (.afterDash item true) else (r.addItem item).classBodyStep c

def edge? (name : List Char) : Option WordEdge :=
  match String.ofList name with
  | "start" => some .start
  | "end" => some .finish
  | "start-half" => some .startHalf
  | "end-half" => some .finishHalf
  | _ => none

def isBoundaryChar (c : Char) : Bool := c.isAlpha || c = '-'

/-- A brace that no letter follows begins a repetition of the boundary. -/
def boundaryOpenedStep (r : Reader) (c : Char) : Except Error Reader :=
  if isBoundaryChar c then .ok (r.enter (.boundaryName [c]))
  else (r.emitAtom (.assertion (.word .boundary))).countMinStep [] false c

def boundaryNameStep (r : Reader) (chars : List Char) (c : Char) : Except Error Reader :=
  if isBoundaryChar c then .ok (r.enter (.boundaryName (c :: chars)))
  else if c ≠ '}' then .error .invalidEscape
  else match edge? chars.reverse with
    | some edge => .ok (r.emitAtom (.assertion (.word edge)))
    | none => .error .invalidEscape

/-- A step on a character that is not passed over. The modes that look ahead stay as they are: they
hand a character on only after they have been left. -/
def visibleStep (r : Reader) (c : Char) : Except Error Reader :=
  match r.mode with
  | .sequence => .ok (r.sequenceStep c)
  | .counted min max =>
    if c = '?' then .ok (r.emit (.repetition min max true))
    else .ok ((r.emit (.repetition min max false)).sequenceStep c)
  | .countMin digits ended => r.countMinStep digits ended c
  | .countMax min digits ended seen => r.countMaxStep min digits ended seen c
  | .opened =>
    if c = '?' then .ok (r.enter .openedQuestion)
    else .ok ((r.openGroup (.capture none)).sequenceStep c)
  | .openedQuestion => r.openedQuestionStep c
  | .openedName => if c = '<' then .ok (r.enter (.groupName [])) else .error .unknownFlag
  | .groupName chars => r.groupNameStep chars c
  | .flags items value dangling => r.flagsStep items value dangling c
  | .escape place => r.escapeStep place c
  | .hexStart place width => r.hexStartStep place width c
  | .hexDigits place width digits => r.hexDigitsStep place width digits c
  | .hexBraced place digits => r.hexBracedStep place digits c
  | .propertyStart place negated => r.propertyStartStep place negated c
  | .propertyBraced place negated chars => r.propertyBracedStep place negated chars c
  | .boundaryOpened => r.boundaryOpenedStep c
  | .boundaryName chars => r.boundaryNameStep chars c
  | .classStart caret => .ok (r.classStartStep caret c)
  | .classDashes => .ok (r.classDashesStep c)
  | .classBody => .ok (r.classBodyStep c)
  | .afterItem item => .ok (r.afterItemStep item c)
  | .afterDash item adjacent => r.afterDashStep item adjacent c
  | .rangeEnd low => r.rangeEndStep low c
  | .repetition .. | .boundary | .classOperator _ | .className _ | .dashComment .. => .ok r

/-- A step on any character outside comments: blanks may be passed over, and comments begun. -/
def plainStep (r : Reader) (c : Char) : Except Error Reader :=
  if r.extended && r.mode.skips && (Text.isBlank c || c = '#') then
    match r.mode with
    | .afterDash item _ =>
      .ok (r.enter (if c = '#' then .dashComment item true else .afterDash item false))
    | _ => .ok { r with comment := c = '#' }
  else r.visibleStep c

def operatorChar : SetOperator → Char
  | .intersection => '&'
  | .difference => '-'
  | .symmetricDifference => '~'

def classOperatorStep (r : Reader) (operator : SetOperator) (c : Char) : Except Error Reader :=
  if c = operatorChar operator then .ok (r.operateClass operator)
  else (r.enter (.afterItem (.literal ⟨operatorChar operator, false⟩))).plainStep c

def asciiNames : List String :=
  ["alnum", "alpha", "ascii", "blank", "cntrl", "digit", "graph", "lower", "print", "punct",
    "space", "upper", "word", "xdigit"]

/-- What a named class is, with its text behind the opening bracket. -/
def asciiItems : List (List Char × ClassSet) :=
  asciiNames.flatMap fun name =>
    [(':' :: name.toList ++ [':', ']'], .ascii name false),
      (':' :: '^' :: name.toList ++ [':', ']'], .ascii name true)]

/-- A bracket that begins no class name begins a class inside the class. -/
def classNameStep (r : Reader) (chars : List Char) (c : Char) : Except Error Reader :=
  let chars := chars ++ [c]
  match asciiItems.lookup chars with
  | some item => .ok (r.addItem item)
  | none =>
    if asciiItems.any fun entry => chars.isPrefixOf entry.1 then .ok (r.enter (.className chars))
    else chars.foldlM plainStep r.openClass

/-- Behind a dash, the first visible character after the start of a comment tells whether the dash
begins a range, be it part of the comment or not. -/
def dashCommentStep (r : Reader) (item : ClassSet) (inside : Bool) (c : Char) :
    Except Error Reader :=
  if Text.isBlank c then .ok (r.enter (.dashComment item (inside && c ≠ '\n')))
  else do
    let r ← if c = ']' || c = '-' then
        .ok ((r.addItem item).enter (.afterItem (.literal ⟨'-', false⟩)))
      else r.rangeStart item
    if inside then return { r with comment := true } else r.plainStep c

def step (r : Reader) (c : Char) : Except Error Reader :=
  if r.comment then .ok { r with comment := c ≠ '\n' }
  else match r.mode with
    | .repetition min max =>
      if c = '?' then .ok (r.emit (.repetition min max true))
      else (r.emit (.repetition min max false)).plainStep c
    | .boundary =>
      if c = '{' then .ok (r.enter .boundaryOpened)
      else (r.emitAtom (.assertion (.word .boundary))).plainStep c
    | .classOperator operator => r.classOperatorStep operator c
    | .className chars => r.classNameStep chars c
    | .dashComment item inside => r.dashCommentStep item inside c
    | _ => r.plainStep c

def finish (r : Reader) : Except Error (List Token) :=
  match r.mode with
  | .sequence => .ok r.tokens.reverse
  | .repetition min max | .counted min max => .ok (r.emit (.repetition min max false)).tokens.reverse
  | .boundary => .ok (r.emitAtom (.assertion (.word .boundary))).tokens.reverse
  | _ => .error .unexpectedEnd

end Reader

def Token.ofText (text : List Char) : Except Error (List Token) := do
  (← text.foldlM Reader.step {}).finish

theorem Reader.foldlM_step_append (r : Reader) (front back : List Char) :
    (front ++ back).foldlM step r = front.foldlM step r >>= back.foldlM step := by
  simp

end UtilityCss.Regex
