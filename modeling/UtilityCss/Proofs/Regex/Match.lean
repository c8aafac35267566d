import UtilityCss.Regex.Expr

/-!
What expressions match, without regard to the order in which a search tries its ways. A match goes
from one cursor to another: between them lies the text matched, and the positions that the capture
groups save on the way are added to those saved before.
-/
namespace UtilityCss.Regex

def Iterated {α : Type} (r : α → α → Prop) : Nat → α → α → Prop
  | 0, a, b => a = b
  | n + 1, a, b => ∃ c, r a c ∧ Iterated r n c b

theorem iterated_add {α : Type} {r : α → α → Prop} {m n : Nat} {a b : α} :
    Iterated r (m + n) a b ↔ ∃ c, Iterated r m a c ∧ Iterated r n c b := by
  induction m generalizing a with
  | zero => simp [Iterated]
  | succ m ih =>
    rw [Nat.succ_add, Iterated]
    simp only [Iterated, ih]
    constructor
    · rintro ⟨c, hc, d, hd, hb⟩
      exact ⟨d, ⟨c, hc, hd⟩, hb⟩
    · rintro ⟨d, ⟨c, hc, hd⟩, hb⟩
      exact ⟨c, hc, d, hd, hb⟩

/-- A position in a text, with the positions saved so far, last first. -/
structure Cursor where
  position : Nat
  slots : List (Nat × Nat)
  deriving DecidableEq, Repr

namespace Cursor

def save (c : Cursor) (slot : Nat) : Cursor := ⟨c.position, (slot, c.position) :: c.slots⟩

def advance (c : Cursor) : Cursor := ⟨c.position + 1, c.slots⟩

def before (text : Array Char) (c : Cursor) : Option Char :=
  if c.position = 0 then none else text[c.position - 1]?

end Cursor

namespace Expr

/-- The expression matches from one cursor to the other. -/
def Matches (text : Array Char) : Expr → Cursor → Cursor → Prop
  | empty, a, b => a = b
  | set s, a, b => (∃ c, text[a.position]? = some c ∧ s.contains c) ∧ b = a.advance
  | look l, a, b => l.holds (a.before text) text[a.position]? ∧ a = b
  | capture index body, a, b =>
    ∃ c, body.Matches text (a.save (2 * index)) c ∧ b = c.save (2 * index + 1)
  | repetition min max _ body, a, b =>
    ∃ n, min ≤ n ∧ (∀ m ∈ max, n ≤ Nat.max min m) ∧ Iterated (body.Matches text) n a b
  | cat first second, a, b => ∃ c, first.Matches text a c ∧ second.Matches text c b
  | alt first second, a, b => first.Matches text a b ∨ second.Matches text a b

def MatchesAll (text : Array Char) : List Expr → Cursor → Cursor → Prop
  | [], a, b => a = b
  | e :: rest, a, b => ∃ c, e.Matches text a c ∧ MatchesAll text rest c b

variable {text : Array Char}

theorem matchesAll_append {es fs : List Expr} {a b : Cursor} :
    MatchesAll text (es ++ fs) a b ↔ ∃ c, MatchesAll text es a c ∧ MatchesAll text fs c b := by
  induction es generalizing a with
  | nil => simp [MatchesAll]
  | cons e rest ih =>
    simp only [List.cons_append, MatchesAll, ih]
    constructor
    · rintro ⟨c, hc, d, hd, hb⟩
      exact ⟨d, ⟨c, hc, hd⟩, hb⟩
    · rintro ⟨d, ⟨c, hc, hd⟩, hb⟩
      exact ⟨c, hc, d, hd, hb⟩

theorem matchesAll_singleton {e : Expr} {a b : Cursor} :
    MatchesAll text [e] a b ↔ e.Matches text a b := by
  simp [MatchesAll]

theorem matchesAll_factors (e : Expr) {a b : Cursor} :
    MatchesAll text e.factors a b ↔ e.Matches text a b := by
  induction e generalizing a b with
  | empty => simp [factors, MatchesAll, Matches]
  | cat first second ihFirst ihSecond =>
    rw [factors, matchesAll_append, Matches]
    simp only [ihFirst, ihSecond]
  | _ => exact matchesAll_singleton

theorem matches_joinFactors (es : List Expr) {a b : Cursor} :
    (joinFactors es).Matches text a b ↔ MatchesAll text es a b := by
  induction es generalizing a with
  | nil => simp [joinFactors, Matches, MatchesAll]
  | cons e rest ih =>
    cases rest with
    | nil => exact matchesAll_singleton.symm
    | cons f rest =>
      rw [joinFactors_cons_cons, Matches, MatchesAll]
      simp only [ih]

theorem matches_sequence (es : List Expr) {a b : Cursor} :
    (sequence es).Matches text a b ↔ MatchesAll text es a b := by
  rw [sequence, matches_joinFactors]
  induction es generalizing a with
  | nil => rfl
  | cons e rest ih =>
    rw [List.flatMap_cons, matchesAll_append, MatchesAll]
    simp only [matchesAll_factors, ih]

end Expr

end UtilityCss.Regex
