import UtilityCss.Regex.Token
import UtilityCss.Unicode.Property

/-! Assertions about a position, decided by the characters on its two sides. -/
namespace UtilityCss.Regex

inductive Look where
  | textStart
  | textEnd
  | lineStart
  | lineEnd
  /-- Line starts where a carriage return ends a line too, though not inside `\r\n`. -/
  | crlfStart
  | crlfEnd
  | word (edge : WordEdge) (unicode : Bool)
  deriving DecidableEq, Repr, Inhabited

def isAsciiWord (c : Char) : Bool := c.isAlphanum || c = '_'

def isWord (unicode : Bool) (c : Char) : Bool :=
  if unicode then Unicode.Property.wordCharacter.contains c else isAsciiWord c

def WordEdge.holds (before after : Bool) : WordEdge → Bool
  | boundary => before != after
  | notBoundary => before == after
  | start => !before && after
  | finish => before && !after
  | startHalf => !before
  | finishHalf => !after

def Look.holds (before after : Option Char) : Look → Bool
  | textStart => before.isNone
  | textEnd => after.isNone
  | lineStart => before.all (· = '\n')
  | lineEnd => after.all (· = '\n')
  | crlfStart => before.all (· = '\n') || (before = some '\r' && after ≠ some '\n')
  | crlfEnd => after.all (· = '\r') || (after = some '\n' && before ≠ some '\r')
  | word edge unicode => edge.holds (before.any (isWord unicode)) (after.any (isWord unicode))

end UtilityCss.Regex
