import UtilityCss.Regex.Look
import UtilityCss.Unicode.CharSet

/-!
Regular expressions, free of the ways in which they can be written. Sequences and choices lean to
the right, and are put together so that neither holds one of its own kind on the left.
-/
namespace UtilityCss.Regex

open Unicode (CharSet)

inductive Expr where
  | empty
  | set (s : CharSet)
  | look (l : Look)
  | capture (index : Nat) (body : Expr)
  | repetition (min : Nat) (max : Option Nat) (lazy : Bool) (body : Expr)
  | cat (first second : Expr)
  | alt (first second : Expr)
  deriving DecidableEq, Repr, Inhabited

namespace Expr

def factors : Expr → List Expr
  | empty => []
  | cat first second => first.factors ++ second.factors
  | e => [e]

def branches : Expr → List Expr
  | alt first second => first.branches ++ second.branches
  | e => [e]

def joinFactors : List Expr → Expr
  | [] => empty
  | [e] => e
  | e :: rest => cat e (joinFactors rest)

theorem joinFactors_cons_cons (e f : Expr) (rest : List Expr) :
    joinFactors (e :: f :: rest) = cat e (joinFactors (f :: rest)) := rfl

def joinBranches : List Expr → Expr
  | [] => set .empty
  | [e] => e
  | e :: rest => alt e (joinBranches rest)

theorem joinBranches_cons_cons (e f : Expr) (rest : List Expr) :
    joinBranches (e :: f :: rest) = alt e (joinBranches (f :: rest)) := rfl

def sequence (es : List Expr) : Expr := joinFactors (es.flatMap factors)

/-- A set of one character, which stands for the text of it. -/
def isLiteral : Expr → Bool
  | set ⟨[(low, high)]⟩ => low = high
  | _ => false

/-- Factors in pieces. What stands for one text is one piece, however long the text is. -/
def pieces : List Expr → List (List Expr)
  | [] => []
  | e :: rest =>
    match pieces rest with
    | [] => [[e]]
    | piece :: more =>
      if e.isLiteral && piece.all isLiteral then (e :: piece) :: more else [e] :: piece :: more

def commonPieces : List (List Expr) → List (List Expr) → List (List Expr)
  | a :: as, b :: bs => if a = b then a :: commonPieces as bs else []
  | _, _ => []

/-- The factors with which all branches begin, piece by piece, provided that each branch is a
sequence of several pieces. -/
def sharedFactors : List Expr → List Expr
  | [] => []
  | e :: rest =>
    if (e :: rest).all fun b => 2 ≤ (pieces b.factors).length then
      (rest.foldl (fun shared b => commonPieces shared (pieces b.factors)) (pieces e.factors)).flatten
    else []

def sets? : List Expr → Option (List CharSet)
  | [] => some []
  | set s :: rest => (sets? rest).map (s :: ·)
  | _ => none

/-- The branches as one expression. Branches that are sets are one set, provided that all of them
stand for texts or none does. -/
def unite (branches : List Expr) : Expr :=
  match sets? branches with
  | some sets =>
    if branches.all isLiteral || branches.all fun b => !b.isLiteral then set (.unions sets)
    else joinBranches branches
  | none => joinBranches branches

/-- The first of the expressions that leads to a match. What all branches begin with is decided once
and for all of them, before any branch is entered. -/
def choice (es : List Expr) : Expr :=
  let branches := es.flatMap branches
  match branches with
  | [e] => e
  | _ =>
    match sharedFactors branches with
    | [] => unite branches
    | shared =>
      let rests := branches.map fun b => sequence (b.factors.drop shared.length)
      sequence (shared ++ [unite (rests.flatMap Expr.branches)])

/-- Matches the empty text and no other. -/
def isVoid : Expr → Bool
  | empty => true
  | set _ => false
  | look _ => true
  | capture _ body => body.isVoid
  | repetition _ _ _ body => body.isVoid
  | cat first second => first.isVoid && second.isVoid
  | alt first second => first.isVoid && second.isVoid

/-- A repetition in its simplest form. What matches only the empty text is repeated once at most. -/
def repeated (min : Nat) (max : Option Nat) (lazy : Bool) (body : Expr) : Expr :=
  let (min, max) := if body.isVoid then (Nat.min min 1, some (max.elim 1 (Nat.min 1))) else (min, max)
  if max = some 0 then empty
  else if min = 1 ∧ max = some 1 then body
  else repetition min max lazy body

def captureCount : Expr → Nat
  | empty | set _ | look _ => 0
  | capture _ body => body.captureCount + 1
  | repetition _ _ _ body => body.captureCount
  | cat first second | alt first second => first.captureCount + second.captureCount

/-- The largest index of a capture group. -/
def lastCapture : Expr → Nat
  | empty | set _ | look _ => 0
  | capture index body => max index body.lastCapture
  | repetition _ _ _ body => body.lastCapture
  | cat first second | alt first second => max first.lastCapture second.lastCapture

end Expr

end UtilityCss.Regex
