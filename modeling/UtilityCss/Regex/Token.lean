import UtilityCss.Unicode.CharSet

/-!
The tokens of a pattern text. Each escape, class, group head and repetition is one token, and so
is every other character outside a class.
-/
namespace UtilityCss.Regex

inductive Flag where
  | ignoreCase
  | multiLine
  | dotAll
  | swapGreed
  | unicode
  | crlf
  /-- Blanks and comments in the pattern text are passed over. -/
  | extended
  deriving DecidableEq, Repr, Inhabited

namespace Flag

def ofChar? : Char → Option Flag
  | 'i' => some ignoreCase
  | 'm' => some multiLine
  | 's' => some dotAll
  | 'U' => some swapGreed
  | 'u' => some unicode
  | 'R' => some crlf
  | 'x' => some extended
  | _ => none

end Flag

abbrev FlagChange := List (Flag × Bool)

def FlagChange.value? (change : FlagChange) (flag : Flag) : Option Bool := change.lookup flag

inductive ShortClass where
  | digit
  | space
  | word
  deriving DecidableEq, Repr, Inhabited

inductive PropertyQuery where
  | named (name : List Char)
  | valued (name value : List Char)
  deriving DecidableEq, Repr, Inhabited

/-- A character of the pattern; `byte` when it is written by two hexadecimal digits. -/
structure Literal where
  char : Char
  byte : Bool := false
  deriving DecidableEq, Repr, Inhabited

inductive SetOperator where
  | intersection
  | difference
  | symmetricDifference
  deriving DecidableEq, Repr, Inhabited

inductive ClassSet where
  | empty
  | literal (l : Literal)
  | range (low high : Literal)
  | ascii (name : String) (negated : Bool)
  | short (kind : ShortClass) (negated : Bool)
  | property (query : PropertyQuery) (negated : Bool)
  | bracketed (negated : Bool) (set : ClassSet)
  | union (left right : ClassSet)
  | binary (operator : SetOperator) (left right : ClassSet)
  deriving DecidableEq, Repr, Inhabited

namespace ClassSet

def isUnion : ClassSet → Bool
  | union .. => true
  | _ => false

/-- Levels of nesting; the members of one union are all one level below it. -/
def height : ClassSet → Nat
  | bracketed _ set => set.height + 1
  | union left right =>
    max (if left.isUnion then left.height else left.height + 1) (right.height + 1)
  | binary _ left right => max left.height right.height + 1
  | _ => 0

end ClassSet

/-- Positions told by which of the characters beside them belong to a word. -/
inductive WordEdge where
  | boundary
  | notBoundary
  | start
  | finish
  /-- Not behind a word. -/
  | startHalf
  /-- Not in front of a word. -/
  | finishHalf
  deriving DecidableEq, Repr, Inhabited

inductive Assertion where
  | textStart
  | textEnd
  | word (edge : WordEdge)
  deriving DecidableEq, Repr, Inhabited

inductive Atom where
  | literal (l : Literal)
  | dot
  | lineStart
  | lineEnd
  | assertion (a : Assertion)
  | short (kind : ShortClass) (negated : Bool)
  | property (query : PropertyQuery) (negated : Bool)
  | bracketed (negated : Bool) (set : ClassSet)
  deriving DecidableEq, Repr, Inhabited

inductive Opening where
  | capture (name : Option (List Char))
  | scoped (change : FlagChange)
  deriving DecidableEq, Repr, Inhabited

inductive Token where
  | atom (a : Atom)
  /-- Flags that hold up to the end of the group around them. -/
  | flags (change : FlagChange)
  | opening (head : Opening)
  | closing
  | bar
  | repetition (min : Nat) (max : Option Nat) (lazy : Bool)
  deriving DecidableEq, Repr, Inhabited

end UtilityCss.Regex
