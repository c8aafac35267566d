import Mathlib.Data.List.TakeWhile
import UtilityCss.Text.Blank

/-! Letters and digits by their code points, and what texts without their ends still hold. -/
namespace UtilityCss.Text

variable {p : Char → Bool} {s : List Char} {c : Char}

theorem isAlphanum_iff :
    c.isAlphanum ↔ (65 ≤ c.toNat ∧ c.toNat ≤ 90) ∨ (97 ≤ c.toNat ∧ c.toNat ≤ 122) ∨
      (48 ≤ c.toNat ∧ c.toNat ≤ 57) := by
  have hranges : c.isAlphanum = ((decide (65 ≤ c.val ∧ c.val ≤ 90) ||
      (97 ≤ c.val && c.val ≤ 122)) || (48 ≤ c.val && c.val ≤ 57)) := rfl
  simp only [hranges, Bool.or_eq_true, Bool.and_eq_true, decide_eq_true_eq,
    UInt32.le_iff_toNat_le, or_assoc]
  rfl

theorem isLower_or_isDigit_iff : (c.isLower || c.isDigit) ↔
    (97 ≤ c.toNat ∧ c.toNat ≤ 122) ∨ (48 ≤ c.toNat ∧ c.toNat ≤ 57) := by
  have hranges : (c.isLower || c.isDigit) =
      ((97 ≤ c.val && c.val ≤ 122) || (48 ≤ c.val && c.val ≤ 57)) := rfl
  simp only [hranges, Bool.or_eq_true, Bool.and_eq_true, decide_eq_true_eq,
    UInt32.le_iff_toNat_le]
  rfl

theorem isLower_or_isDigit_toLower (h : c.isAlphanum) :
    c.toLower.isLower || c.toLower.isDigit := by
  rw [isAlphanum_iff] at h
  rw [isLower_or_isDigit_iff]
  unfold Char.toLower
  split
  · next hupper =>
    have hA : 'A'.val.toNat = 65 := rfl
    have hZ : 'Z'.val.toNat = 90 := rfl
    have hshift : ('a'.val - 'A'.val).toNat = 32 := rfl
    simp only [UInt32.le_iff_toNat_le, ge_iff_le, Char.toNat, UInt32.toNat_add] at hupper ⊢
    omega
  · next hupper =>
    have hA : 'A'.val.toNat = 65 := rfl
    have hZ : 'Z'.val.toNat = 90 := rfl
    simp only [UInt32.le_iff_toNat_le, ge_iff_le, Char.toNat] at hupper h ⊢
    omega

theorem isAlphanum_toLower (h : c.isAlphanum) : c.toLower.isAlphanum := by
  have hlower := isLower_or_isDigit_iff.1 (isLower_or_isDigit_toLower h)
  rw [isAlphanum_iff]
  omega

theorem toLower_eq_self (h : c.isLower || c.isDigit) : c.toLower = c := by
  rw [isLower_or_isDigit_iff] at h
  unfold Char.toLower
  rw [dif_neg]
  have hA : 'A'.val.toNat = 65 := rfl
  have hZ : 'Z'.val.toNat = 90 := rfl
  simp only [UInt32.le_iff_toNat_le, ge_iff_le, Char.toNat] at h ⊢
  omega

theorem isBlank_of_isAlphanum (h : c.isAlphanum) : isBlank c = false := by
  rw [isAlphanum_iff] at h
  simp only [isBlank, Bool.or_eq_false_iff, Bool.and_eq_false_iff, decide_eq_false_iff_not]
  omega

theorem mem_of_mem_trimBoth (h : c ∈ trimBoth p s) : c ∈ s := by
  rw [trimBoth, trimEnd, List.mem_reverse] at h
  have hback := List.mem_reverse.1 ((List.dropWhile_sublist p).subset h)
  exact (List.dropWhile_sublist p).subset hback

theorem mem_dropWhile_of_not (h : c ∈ s) (hc : p c = false) : c ∈ s.dropWhile p := by
  rw [← List.takeWhile_append_dropWhile (p := p) (l := s), List.mem_append] at h
  apply h.resolve_left
  intro hfront
  rw [List.mem_takeWhile_imp hfront] at hc
  nomatch hc

theorem mem_trimBoth_of_not (h : c ∈ s) (hc : p c = false) : c ∈ trimBoth p s := by
  rw [trimBoth, trimEnd, List.mem_reverse]
  apply mem_dropWhile_of_not _ hc
  exact List.mem_reverse.2 (mem_dropWhile_of_not h hc)

theorem getLast?_trimEnd (p : Char → Bool) (s : List Char) :
    (trimEnd p s).getLast?.all fun c => !p c := by
  have hhead := List.head?_dropWhile_not p s.reverse
  rw [trimEnd, List.getLast?_reverse]
  cases hfirst : (s.reverse.dropWhile p).head? with
  | none => rfl
  | some c =>
    rw [hfirst] at hhead
    simpa using hhead

theorem trimEnd_eq_self_of_getLast? (h : s.getLast?.all fun c => !p c) : trimEnd p s = s := by
  have hkeep : s.reverse.dropWhile p = s.reverse := by
    rw [← List.head?_reverse] at h
    cases hs : s.reverse with
    | nil => rfl
    | cons c rest =>
      rw [hs] at h
      rw [List.dropWhile_cons_of_neg (by simpa using h)]
  rw [trimEnd, hkeep, List.reverse_reverse]

theorem trimEnd_eq_self (h : ∀ c ∈ s, p c = false) : trimEnd p s = s := by
  apply trimEnd_eq_self_of_getLast?
  rw [Option.all_eq_true]
  intro c hc
  rw [h c (List.mem_of_getLast? hc)]
  rfl

theorem trimEnd_append (s : List Char) {tail : List Char} (h : tail.all p) :
    trimEnd p (s ++ tail) = trimEnd p s := by
  have htail : ∀ c ∈ tail.reverse, p c :=
    fun c hc => List.all_eq_true.1 h c (List.mem_reverse.1 hc)
  rw [trimEnd, List.reverse_append, List.dropWhile_append_of_pos htail, trimEnd]

theorem trimBoth_append {lead tail : List Char} (hlead : lead.all p) (htail : tail.all p)
    (hhead : s.head?.all fun c => !p c) (hlast : s.getLast?.all fun c => !p c) :
    trimBoth p (lead ++ s ++ tail) = s := by
  rw [trimBoth, List.append_assoc, List.dropWhile_append_of_pos (List.all_eq_true.1 hlead)]
  cases s with
  | nil =>
    rw [List.nil_append, List.dropWhile_eq_nil_iff.2 (List.all_eq_true.1 htail)]
    rfl
  | cons c rest =>
    have hc : ¬ p c := by simpa using hhead
    rw [List.cons_append, List.dropWhile_cons_of_neg hc, ← List.cons_append, trimEnd_append _ htail,
      trimEnd_eq_self_of_getLast? hlast]

theorem exists_trimBoth (p : Char → Bool) (s : List Char) :
    ∃ lead tail, lead.all p ∧ tail.all p ∧ s = lead ++ trimBoth p s ++ tail := by
  let rest := s.dropWhile p
  have hfront : s = s.takeWhile p ++ rest := List.takeWhile_append_dropWhile.symm
  have hback : rest = trimEnd p rest ++ (rest.reverse.takeWhile p).reverse := by
    rw [trimEnd, ← List.reverse_append, List.takeWhile_append_dropWhile, List.reverse_reverse]
  refine ⟨s.takeWhile p, (rest.reverse.takeWhile p).reverse, List.all_takeWhile, ?_, ?_⟩
  · rw [List.all_reverse, List.all_takeWhile]
  · rw [List.append_assoc, trimBoth, ← hback]
    exact hfront

end UtilityCss.Text
