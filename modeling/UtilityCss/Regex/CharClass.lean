import UtilityCss.Regex.Error
import UtilityCss.Regex.Token
import UtilityCss.Unicode.CaseFolding
import UtilityCss.Unicode.Named

/-! The characters that classes stand for, under the flags in force. -/
namespace UtilityCss.Regex

open Unicode (CharSet)

/-- The flags in force, that on blanks in the pattern text apart. -/
structure Settings where
  ignoreCase : Bool := false
  multiLine : Bool := false
  dotAll : Bool := false
  swapGreed : Bool := false
  unicode : Bool := true
  crlf : Bool := false
  deriving DecidableEq, Repr, Inhabited

namespace Settings

def set (s : Settings) (flag : Flag) (value : Bool) : Settings :=
  match flag with
  | .ignoreCase => { s with ignoreCase := value }
  | .multiLine => { s with multiLine := value }
  | .dotAll => { s with dotAll := value }
  | .swapGreed => { s with swapGreed := value }
  | .unicode => { s with unicode := value }
  | .crlf => { s with crlf := value }
  | .extended => s

def change (s : Settings) (change : FlagChange) : Settings :=
  change.foldl (fun s item => s.set item.1 item.2) s

def admits (s : Settings) (n : Nat) : Bool := s.unicode || n < 128

end Settings

namespace CharClass

def foldAscii (s : CharSet) : CharSet :=
  .unions [s,
    ⟨(s.inter ⟨[(0x41, 0x5a)]⟩).ranges.map fun r => (r.1 + 32, r.2 + 32)⟩,
    ⟨(s.inter ⟨[(0x61, 0x7a)]⟩).ranges.map fun r => (r.1 - 32, r.2 - 32)⟩]

def fold (s : Settings) (set : CharSet) : CharSet :=
  if !s.ignoreCase then set else if s.unicode then set.foldCase else foldAscii set

/-- The complement of a set. Without Unicode it would hold what is no character. -/
def negateIf (s : Settings) (negated : Bool) (set : CharSet) : Except Error CharSet :=
  if !negated then .ok set else if s.unicode then .ok set.complement else .error .unicodeOff

def ascii (name : String) : CharSet :=
  match name with
  | "alnum" => ⟨[(0x30, 0x39), (0x41, 0x5a), (0x61, 0x7a)]⟩
  | "alpha" => ⟨[(0x41, 0x5a), (0x61, 0x7a)]⟩
  | "ascii" => ⟨[(0, 0x7f)]⟩
  | "blank" => ⟨[(0x09, 0x09), (0x20, 0x20)]⟩
  | "cntrl" => ⟨[(0, 0x1f), (0x7f, 0x7f)]⟩
  | "digit" => ⟨[(0x30, 0x39)]⟩
  | "graph" => ⟨[(0x21, 0x7e)]⟩
  | "lower" => ⟨[(0x61, 0x7a)]⟩
  | "print" => ⟨[(0x20, 0x7e)]⟩
  | "punct" => ⟨[(0x21, 0x2f), (0x3a, 0x40), (0x5b, 0x60), (0x7b, 0x7e)]⟩
  | "space" => ⟨[(0x09, 0x0d), (0x20, 0x20)]⟩
  | "upper" => ⟨[(0x41, 0x5a)]⟩
  | "word" => ⟨[(0x30, 0x39), (0x41, 0x5a), (0x5f, 0x5f), (0x61, 0x7a)]⟩
  | "xdigit" => ⟨[(0x30, 0x39), (0x41, 0x46), (0x61, 0x66)]⟩
  | _ => .empty

def shortSet (s : Settings) : ShortClass → CharSet
  | .digit => if s.unicode then Unicode.Category.decimalNumber else ascii "digit"
  | .space => if s.unicode then Unicode.Property.whiteSpace else ascii "space"
  | .word => if s.unicode then Unicode.Property.wordCharacter else ascii "word"

/-- Classes with a letter of their own hold all cases of their members as they are. -/
def short (s : Settings) (kind : ShortClass) (negated : Bool) : Except Error CharSet :=
  negateIf s negated (shortSet s kind)

def property (s : Settings) (query : PropertyQuery) (negated : Bool) : Except Error CharSet :=
  if !s.unicode then .error .unicodeOff
  else
    let found := match query with
      | .named name => Unicode.propertyNamed name
      | .valued name value => Unicode.propertyValued name value
    match found with
    | some set => negateIf s negated (fold s set)
    | none => .error .unknownProperty

def operate : SetOperator → CharSet → CharSet → CharSet
  | .intersection => .inter
  | .difference => .diff
  | .symmetricDifference => .symmDiff

def members (s : Settings) : ClassSet → Except Error CharSet
  | .empty => .ok .empty
  | .literal l => if s.admits l.char.toNat then .ok (.ofChar l.char) else .error .unicodeOff
  | .range low high =>
    if s.admits low.char.toNat && s.admits high.char.toNat then
      .ok ⟨[(low.char.toNat, high.char.toNat)]⟩
    else .error .unicodeOff
  | .ascii name negated => negateIf s negated (fold s (ascii name))
  | .short kind negated => short s kind negated
  | .property query negated => property s query negated
  | .bracketed negated set => do negateIf s negated (fold s (← members s set))
  | .union left right => return (← members s left).union (← members s right)
  | .binary operator left right =>
    return operate operator (fold s (← members s left)) (fold s (← members s right))

def bracketed (s : Settings) (negated : Bool) (set : ClassSet) : Except Error CharSet :=
  members s (.bracketed negated set)

end CharClass

end UtilityCss.Regex
