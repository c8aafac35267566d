import UtilityCss.Regex.CharClass
import UtilityCss.Regex.Expr
import UtilityCss.Regex.Reader

/-!
Expressions from tokens. Flags hold from where they are set to the end of the group around them,
over the bars inside it.
-/
namespace UtilityCss.Regex

open Unicode (CharSet)

def dotSet (s : Settings) : CharSet :=
  if s.dotAll then .full
  else if s.crlf then CharSet.complement ⟨[(0x0a, 0x0a), (0x0d, 0x0d)]⟩
  else CharSet.complement ⟨[(0x0a, 0x0a)]⟩

def literalSet (s : Settings) (l : Literal) : Except Error CharSet :=
  if s.unicode then .ok (CharClass.fold s (.ofChar l.char))
  else if l.char.toNat < 128 then .ok (CharClass.fold s (.ofChar l.char))
  else if l.byte then .error .unicodeOff
  else .ok (.ofChar l.char)

def Atom.expr (s : Settings) : Atom → Except Error Expr
  | .literal l => Expr.set <$> literalSet s l
  | .dot => if s.unicode then .ok (.set (dotSet s)) else .error .unicodeOff
  | .lineStart =>
    .ok (.look (if !s.multiLine then .textStart else if s.crlf then .crlfStart else .lineStart))
  | .lineEnd =>
    .ok (.look (if !s.multiLine then .textEnd else if s.crlf then .crlfEnd else .lineEnd))
  | .assertion .textStart => .ok (.look .textStart)
  | .assertion .textEnd => .ok (.look .textEnd)
  | .assertion (.word edge) => .ok (.look (.word edge s.unicode))
  | .short kind negated => Expr.set <$> CharClass.short s kind negated
  | .property query negated => Expr.set <$> CharClass.property s query negated
  | .bracketed negated set => Expr.set <$> CharClass.bracketed s negated set

def Atom.height : Atom → Nat
  | .bracketed _ set => set.height + 1
  | _ => 0

structure Part where
  expr : Expr
  /-- Levels of nesting; sequences and choices are a level each, however long. -/
  height : Nat
  repeatable : Bool
  deriving DecidableEq, Repr, Inhabited

namespace Part

def level (parts : List Part) : Nat := (parts.map height).foldl max 0 + 1

def sequence : List Part → Part
  | [] => ⟨.empty, 0, true⟩
  | [p] => p
  | parts => ⟨.sequence (parts.map expr), level parts, true⟩

def choice : List Part → Part
  | [] => ⟨.empty, 0, true⟩
  | [p] => p
  | parts => ⟨.choice (parts.map expr), level parts, true⟩

end Part

/-- A group whose closing parenthesis has not been read, or the whole. -/
structure Frame where
  settings : Settings := {}
  capture : Option Nat := none
  /-- The branches in front of the last bar, last first. -/
  branches : List Part := []
  /-- The parts behind the last bar, last first. -/
  parts : List Part := []
  deriving Repr, Inhabited

namespace Frame

def push (f : Frame) (p : Part) : Frame := { f with parts := p :: f.parts }

def bar (f : Frame) : Frame :=
  { f with branches := Part.sequence f.parts.reverse :: f.branches, parts := [] }

def inside (f : Frame) : Part := Part.choice (f.bar.branches.reverse)

def close (f : Frame) : Part :=
  let inside := f.inside
  let expr := match f.capture with
    | some index => .capture index inside.expr
    | none => inside.expr
  ⟨expr, inside.height + 1, true⟩

end Frame

structure Builder where
  frame : Frame := {}
  /-- The groups around, innermost first. -/
  outer : List Frame := []
  captures : Nat := 0
  names : List (List Char) := []
  deriving Repr, Inhabited

namespace Builder

def push (b : Builder) (p : Part) : Builder := { b with frame := b.frame.push p }

def openGroup (b : Builder) : Opening → Except Error Builder
  | .scoped change =>
    .ok { b with
      frame := { settings := b.frame.settings.change change }
      outer := b.frame :: b.outer }
  | .capture name =>
    if name.any b.names.contains then .error .repeatedGroupName
    else .ok { b with
      frame := { settings := b.frame.settings, capture := some (b.captures + 1) }
      outer := b.frame :: b.outer
      captures := b.captures + 1
      names := name.toList ++ b.names }

def closeGroup (b : Builder) : Except Error Builder :=
  match b.outer with
  | [] => .error .unopenedGroup
  | f :: outer => .ok { b with frame := f.push b.frame.close, outer }

def setFlags (b : Builder) (change : FlagChange) : Builder :=
  let f := b.frame.push ⟨.empty, 0, false⟩
  { b with frame := { f with settings := f.settings.change change } }

def repeatLast (b : Builder) (min : Nat) (max : Option Nat) (lazy : Bool) : Except Error Builder :=
  match b.frame.parts with
  | [] => .error .nothingToRepeat
  | p :: parts =>
    if !p.repeatable then .error .nothingToRepeat
    else
      let lazy := lazy != b.frame.settings.swapGreed
      let p : Part := ⟨.repeated min max lazy p.expr, p.height + 1, true⟩
      .ok { b with frame := { b.frame with parts := p :: parts } }

def step (b : Builder) : Token → Except Error Builder
  | .atom a => do return b.push ⟨← a.expr b.frame.settings, a.height, true⟩
  | .flags change => .ok (b.setFlags change)
  | .opening head => b.openGroup head
  | .closing => b.closeGroup
  | .bar => .ok { b with frame := b.frame.bar }
  | .repetition min max lazy => b.repeatLast min max lazy

def heightLimit : Nat := 250

def finish (b : Builder) : Except Error Expr :=
  if !b.outer.isEmpty then .error .unclosedGroup
  else if b.frame.inside.height > heightLimit then .error .nestedTooDeeply
  else .ok b.frame.inside.expr

end Builder

def Expr.ofTokens (tokens : List Token) : Except Error Expr := do
  (← tokens.foldlM Builder.step {}).finish

def Expr.ofText (text : List Char) : Except Error Expr := do
  Expr.ofTokens (← Token.ofText text)

end UtilityCss.Regex
