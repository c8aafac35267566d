import UtilityCss.Regex.Expr

/-! Regular expressions as programs that walk over a text, choosing between two ways at splits. -/
namespace UtilityCss.Regex

open Unicode (CharSet)

/-- An instruction goes on to the next one unless it says otherwise. -/
inductive Instruction where
  | take (s : CharSet)
  | look (l : Look)
  | save (slot : Nat)
  /-- Goes on at one address and, if that fails, at another. -/
  | split (first second : Nat)
  | jump (address : Nat)
  | accept
  deriving DecidableEq, Repr, Inhabited

namespace Instruction

/-- A split that would rather go on at `inside`, or rather at `outside` if it is lazy. -/
def enter (lazy : Bool) (inside outside : Nat) : Instruction :=
  if lazy then split outside inside else split inside outside

end Instruction

namespace Expr

def length : Expr → Nat
  | empty => 0
  | set _ => 1
  | look _ => 1
  | capture _ body => body.length + 2
  | repetition 0 none _ body => body.length + 2
  | repetition (n + 1) none _ body => (n + 1) * body.length + 1
  | repetition min (some max) _ body => min * body.length + (max - min) * (body.length + 1)
  | cat first second => first.length + second.length
  | alt first second => first.length + second.length + 2

def copies (count size start : Nat) (piece : Nat → List Instruction) : List Instruction :=
  (List.range count).flatMap fun i => piece (start + i * size)

/-- The instructions for an expression at an address. They run into what follows them. -/
def code : Expr → Nat → List Instruction
  | empty, _ => []
  | set s, _ => [.take s]
  | look l, _ => [.look l]
  | capture index body, start =>
    .save (2 * index) :: body.code (start + 1) ++ [.save (2 * index + 1)]
  | repetition 0 none lazy body, start =>
    let last := start + 1 + body.length
    .enter lazy (start + 1) (last + 1) :: body.code (start + 1) ++
      [.enter lazy (start + 1) (last + 1)]
  | repetition (n + 1) none lazy body, start =>
    let last := start + (n + 1) * body.length
    copies (n + 1) body.length start body.code ++
      [.enter lazy (last - body.length) (last + 1)]
  | repetition min (some max) lazy body, start =>
    let middle := start + min * body.length
    let stop := middle + (max - min) * (body.length + 1)
    copies min body.length start body.code ++
      copies (max - min) (body.length + 1) middle fun address =>
        .enter lazy (address + 1) stop :: body.code (address + 1)
  | cat first second, start => first.code start ++ second.code (start + first.length)
  | alt first second, start =>
    let middle := start + first.length + 2
    .split (start + 1) middle :: first.code (start + 1) ++
      [.jump (middle + second.length)] ++ second.code middle

/-- The program that accepts where the expression matches. -/
def program (e : Expr) : Array Instruction := (e.code 0 ++ [Instruction.accept]).toArray

end Expr

end UtilityCss.Regex
