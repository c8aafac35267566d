import UtilityCss.Regex.Expr
import UtilityCss.Unicode.Utf8

/-!
The room that an expression takes when it is laid out as an automaton over bytes, read forwards or
backwards. A limit on it keeps repetitions of repetitions from growing without bound.
-/
namespace UtilityCss.Regex

open Unicode (CharSet)
open Unicode.Utf8 (Bytes)

/-- Bytes taken by one state. -/
def stateSize : Nat := 32

/-- Bytes taken by one way out of a state that chooses by the next byte. -/
def edgeSize : Nat := 8

/-- Bytes taken by one way out of a state that branches freely. -/
def branchSize : Nat := 4

def stems (sequences : List Bytes) : List Bytes :=
  (sequences.flatMap fun s => (List.range s.length).map fun n => s.take (n + 1)).eraseDups

def heads (sequences : List Bytes) : List ((Nat × Nat) × List Bytes) :=
  let firsts := (sequences.filterMap List.head?).eraseDups
  firsts.map fun r => (r, (sequences.filter fun s => s.head? = some r).map List.tail)

/-- The different sets of sequences that are left after some bytes, while there are any left;
`depth` bounds the length of the sequences. -/
def nodes : Nat → List Bytes → List (List Bytes)
  | 0, _ => []
  | depth + 1, sequences =>
    let rest := sequences.filter fun s => !s.isEmpty
    if rest.isEmpty then []
    else rest :: ((heads rest).flatMap fun h => nodes depth h.2)

/-- A set read forwards shares what its sequences have in common at their ends. -/
def forwardSetSize (s : CharSet) : Nat :=
  let nodes := (nodes 4 (Unicode.Utf8.ofSet s)).eraseDups
  nodes.foldl (fun size n => size + stateSize + edgeSize * (heads n).length) stateSize

/-- A set read backwards shares what its sequences have in common at their beginnings. -/
def backwardSetSize (s : CharSet) : Nat :=
  let sequences := Unicode.Utf8.ofSet s
  2 * stateSize + branchSize * sequences.length + stateSize * (stems sequences).length

def setSize (backward : Bool) (s : CharSet) : Nat :=
  match s.ranges with
  | [(low, high)] =>
    if low = high then stateSize * Unicode.Utf8.length low
    else if high < 128 then 2 * stateSize + edgeSize
    else if backward then backwardSetSize s else forwardSetSize s
  | ranges =>
    if s.allBelow 128 then 2 * stateSize + edgeSize * ranges.length
    else if backward then backwardSetSize s else forwardSetSize s

/-- A free choice between going one way and another. -/
def forkSize : Nat := stateSize + 2 * branchSize

/-- A repetition whose body takes `once`; `moves` says that the body never matches empty text. -/
def repetitionSize (once : Nat) (moves : Bool) : Nat → Option Nat → Nat
  | 0, none => if moves then once + forkSize else once + 2 * forkSize + stateSize
  | min + 1, none => (min + 1) * once + forkSize
  | 0, some 1 => once + forkSize + stateSize
  | min, some max =>
    let required := if min = 0 then stateSize else min * once
    if min = max then required else required + (max - min) * (once + forkSize) + stateSize

/-- The words behind each first byte, in the order in which the first bytes come up. -/
def tails (words : List (List Nat)) : List (List (List Nat)) :=
  let firsts := (words.filterMap List.head?).eraseDups
  firsts.map fun b => (words.filter fun w => w.head? = some b).map List.tail

/-- Words as a tree that shares what they begin with. Where a word ends in the midst of others,
those in front of it in the list are kept apart from those behind it; `depth` bounds the length of
the words. -/
def wordsSize : Nat → List (List Nat) → Nat
  | 0, _ => 0
  | depth + 1, words =>
    if words.all List.isEmpty then 0
    else
      let words := if words.head? = some [] then [] :: words.dropWhile List.isEmpty else words
      let parts := words.splitOnP List.isEmpty
      let choices := (parts.map tails).filter fun children => !children.isEmpty
      let ways := choices.length + (parts.length - 1)
      let chosen := choices.foldl
        (fun size children =>
          size + stateSize + if children.length = 1 then 0 else edgeSize * children.length)
        (stateSize + branchSize * ways)
      choices.flatten.foldl (fun size words => size + wordsSize depth words) chosen

/-- A choice between texts is laid out as a tree of them. -/
def treeSize (backward : Bool) (texts : List (List Nat)) : Nat :=
  let words := if backward then texts.map List.reverse else texts
  stateSize + wordsSize words.flatten.length words

namespace Expr

def isAlt : Expr → Bool
  | alt .. => true
  | _ => false

/-- The bytes of the character that the expression stands for. -/
def bytes? (e : Expr) : Option (List Nat) :=
  match e with
  | set s => if e.isLiteral then some ((Unicode.Utf8.ofSet s).flatten.map Prod.fst) else none
  | _ => none

/-- The bytes of the text that the expression stands for. -/
def word? (e : Expr) : Option (List Nat) :=
  if e.factors.isEmpty then none else (e.factors.mapM bytes?).map List.flatten

/-- The least number of bytes in a match; none if there may be no match at all. -/
def minLength? : Expr → Option Nat
  | empty => some 0
  | set s => s.ranges.head?.map fun r => Unicode.Utf8.length r.1
  | look _ => some 0
  | capture _ body => body.minLength?
  | repetition min _ _ body => body.minLength?.map (min * ·)
  | cat first second => do return (← first.minLength?) + (← second.minLength?)
  | alt first second => do return Nat.min (← first.minLength?) (← second.minLength?)

/-- Bytes taken by the expression when read backwards or forwards, be it by itself or as the rest of
a choice. -/
def sizeIn (backward : Bool) : Bool → Expr → Nat
  | _, empty => stateSize
  | _, set s => setSize backward s
  | _, look _ => stateSize
  | _, capture _ body => (if backward then 0 else 2 * stateSize) + body.sizeIn backward false
  | _, repetition min max _ body =>
    repetitionSize (body.sizeIn backward false) (body.minLength?.any (0 < ·)) min max
  | _, cat first second => first.sizeIn backward false + second.sizeIn backward false
  | rest, alt first second =>
    let apart := first.sizeIn backward false + second.sizeIn backward true +
      if second.isAlt then branchSize else 2 * stateSize + 2 * branchSize
    if rest then apart
    else ((first.branches ++ second.branches).mapM word?).elim apart (treeSize backward)

def size (backward : Bool) (e : Expr) : Nat := e.sizeIn backward false

end Expr

/-- The room that is allowed for a pattern unless more is asked for. -/
def sizeLimit : Nat := 10 * Nat.pow 2 20

end UtilityCss.Regex
