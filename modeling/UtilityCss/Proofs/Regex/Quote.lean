import Mathlib.Data.List.Basic
import UtilityCss.Proofs.Regex.Match
import UtilityCss.Proofs.Unicode.CharSet
import UtilityCss.Regex.Basic

/-!
A quoted text stands for itself: it is read as its characters one by one, and matches them alone.
-/
namespace UtilityCss.Regex

open Unicode (CharSet)

def literals (text : List Char) : List Token := text.map fun c => .atom (.literal ⟨c, false⟩)

namespace Reader

structure Idle (r : Reader) : Prop where
  mode : r.mode = .sequence
  comment : r.comment = false
  extended : r.extended = false

theorem step_idle {r : Reader} (h : r.Idle) (c : Char) : r.step c = .ok (r.sequenceStep c) := by
  obtain ⟨mode, comment, extended, saved, classes, tokens⟩ := r
  obtain ⟨rfl, rfl, rfl⟩ := h
  rfl

theorem Idle.emitAtom {r : Reader} (h : r.Idle) (a : Atom) : (r.emitAtom a).Idle :=
  ⟨rfl, h.comment, h.extended⟩

theorem sequenceStep_literal (r : Reader) {c : Char} (h : isMeta c = false) :
    r.sequenceStep c = r.emitAtom (.literal ⟨c, false⟩) := by
  unfold sequenceStep
  split
  case h_13 => rfl
  all_goals exact absurd h (by decide)

theorem escapeStep_meta (r : Reader) {c : Char} (h : isMeta c) :
    r.escapeStep .sequence c = .ok (r.emitAtom (.literal ⟨c, false⟩)) := by
  have hall : "\\.+*?()|[]\x7b\x7d^$#&-~".toList.all isEscapable := by decide
  have hescapable : isEscapable c := List.all_eq_true.1 hall c (by simpa [isMeta] using h)
  unfold escapeStep
  split
  case h_24 =>
    rw [if_pos hescapable]
    rfl
  all_goals exact absurd h (by decide)

theorem read_quoted_char {r : Reader} (h : r.Idle) (c : Char) :
    (if isMeta c then ['\\', c] else [c]).foldlM step r =
      .ok (r.emitAtom (.literal ⟨c, false⟩)) := by
  cases hc : isMeta c with
  | true =>
    obtain ⟨mode, comment, extended, saved, classes, tokens⟩ := r
    obtain ⟨rfl, rfl, rfl⟩ := h
    change (escapeStep ⟨.escape .sequence, false, false, saved, classes, tokens⟩ .sequence c >>=
      pure) = _
    rw [escapeStep_meta _ hc]
    rfl
  | false =>
    change (r.step c >>= pure) = _
    rw [step_idle h, sequenceStep_literal r hc]
    rfl

theorem read_quote (text : List Char) {r : Reader} (h : r.Idle) :
    (quote text).foldlM step r = .ok { r with tokens := (literals text).reverse ++ r.tokens } := by
  induction text generalizing r with
  | nil => rfl
  | cons c rest ih =>
    have hquote : quote (c :: rest) = (if isMeta c then ['\\', c] else [c]) ++ quote rest :=
      List.flatMap_cons
    rw [hquote, foldlM_step_append, read_quoted_char h]
    change (quote rest).foldlM step _ = _
    rw [ih (h.emitAtom _)]
    obtain ⟨mode, comment, extended, saved, classes, tokens⟩ := r
    obtain rfl : mode = .sequence := h.mode
    simp [literals, emitAtom, emit]

end Reader

def literalPart (c : Char) : Part := ⟨.set (.ofChar c), 0, true⟩

theorem run_literals (text : List Char) {b : Builder} (h : b.frame.settings = {}) :
    (literals text).foldlM Builder.step b =
      .ok { b with frame :=
        { b.frame with parts := (text.map literalPart).reverse ++ b.frame.parts } } := by
  induction text generalizing b with
  | nil => rfl
  | cons c rest ih =>
    have hliteral : b.step (.atom (.literal ⟨c, false⟩)) = .ok (b.push (literalPart c)) := by
      change ((Atom.literal ⟨c, false⟩).expr b.frame.settings >>= fun e => _) = _
      rw [h]
      rfl
    have hliterals : literals (c :: rest) = .atom (.literal ⟨c, false⟩) :: literals rest := rfl
    rw [hliterals, List.foldlM_cons, hliteral]
    change (literals rest).foldlM Builder.step (b.push (literalPart c)) = _
    rw [ih (b := b.push (literalPart c)) h]
    simp [Builder.push, Frame.push]

def Cursor.rest (text : Array Char) (c : Cursor) : List Char := text.toList.drop c.position

def Passes (text : Array Char) (cs : List Char) (a b : Cursor) : Prop :=
  a.rest text = cs ++ b.rest text ∧ b = ⟨a.position + cs.length, a.slots⟩

variable {text : Array Char} {a b : Cursor} {cs : List Char}

theorem passes_nil : Passes text [] a b ↔ a = b := by
  unfold Passes
  constructor
  · rintro ⟨-, rfl⟩
    rfl
  · rintro rfl
    exact ⟨rfl, rfl⟩

theorem passes_cons {c : Char} :
    Passes text (c :: cs) a b ↔ ∃ m, Passes text [c] a m ∧ Passes text cs m b := by
  unfold Passes
  constructor
  · rintro ⟨hrest, rfl⟩
    have htail : Cursor.rest text ⟨a.position + 1, a.slots⟩ =
        cs ++ Cursor.rest text ⟨a.position + (cs.length + 1), a.slots⟩ := by
      have hdrop := congrArg List.tail hrest
      simpa [Cursor.rest] using hdrop
    refine ⟨⟨a.position + 1, a.slots⟩, ⟨?_, rfl⟩, htail, ?_⟩
    · rw [htail]
      exact hrest
    · simp [Nat.add_assoc, Nat.add_comm 1]
  · rintro ⟨_, ⟨hhead, rfl⟩, htail, rfl⟩
    refine ⟨?_, ?_⟩
    · rw [hhead, htail]
      rfl
    · simp [Nat.add_assoc, Nat.add_comm 1]

namespace Expr

variable {s : CharSet}

theorem matches_set : (set s).Matches text a b ↔ ∃ c, s.contains c ∧ Passes text [c] a b := by
  have hrest : ∀ c, text[a.position]? = some c ↔ a.rest text = c :: a.advance.rest text := by
    intro c
    unfold Cursor.rest Cursor.advance
    rw [← Array.getElem?_toList]
    constructor
    · intro h
      obtain ⟨hlt, rfl⟩ := List.getElem?_eq_some_iff.1 h
      exact List.drop_eq_getElem_cons hlt
    · intro h
      have hhead := congrArg List.head? h
      rwa [List.head?_drop] at hhead
  unfold Matches Passes
  constructor
  · rintro ⟨⟨c, hc, hs⟩, rfl⟩
    exact ⟨c, hs, (hrest c).1 hc, rfl⟩
  · rintro ⟨c, hs, hc, rfl⟩
    exact ⟨⟨c, (hrest c).2 hc, hs⟩, rfl⟩

theorem iterated_set {n : Nat} :
    Iterated ((set s).Matches text) n a b ↔
      ∃ cs : List Char, cs.length = n ∧ (∀ c ∈ cs, s.contains c) ∧ Passes text cs a b := by
  induction n generalizing a with
  | zero =>
    constructor
    · rintro rfl
      exact ⟨[], rfl, by simp, passes_nil.2 rfl⟩
    · rintro ⟨cs, hlength, -, hpasses⟩
      obtain rfl := List.length_eq_zero_iff.1 hlength
      exact passes_nil.1 hpasses
  | succ n ih =>
    simp only [Iterated, matches_set, ih]
    constructor
    · rintro ⟨m, ⟨c, hs, hc⟩, cs, hlength, hcs, hpasses⟩
      exact ⟨c :: cs, by simp [hlength], List.forall_mem_cons.2 ⟨hs, hcs⟩,
        passes_cons.2 ⟨m, hc, hpasses⟩⟩
    · rintro ⟨cs, hlength, hall, hpasses⟩
      obtain ⟨c, cs, rfl⟩ := List.exists_cons_of_length_eq_add_one hlength
      obtain ⟨hs, hcs⟩ := List.forall_mem_cons.1 hall
      obtain ⟨m, hc, hrest⟩ := passes_cons.1 hpasses
      exact ⟨m, ⟨c, hs, hc⟩, cs, Nat.succ.inj hlength, hcs, hrest⟩

theorem matchesAll_literals :
    MatchesAll text (cs.map fun c => set (.ofChar c)) a b ↔ Passes text cs a b := by
  induction cs generalizing a with
  | nil => exact passes_nil.symm
  | cons c cs ih =>
    rw [List.map_cons, MatchesAll, passes_cons]
    simp only [matches_set, CharSet.contains_ofChar, exists_eq_left, ih]

end Expr

end UtilityCss.Regex
