import Mathlib.Data.List.Basic
import UtilityCss.Unicode.CharSet

/-! Membership in sets that are put together from ranges. -/
namespace UtilityCss.Unicode.CharSet

theorem containsCode_iff {s : CharSet} {n : Nat} :
    s.containsCode n ↔ ∃ r ∈ s.ranges, r.1 ≤ n ∧ n ≤ r.2 := by
  simp [containsCode]

theorem exists_joinRanges {ranges : List (Nat × Nat)} {n : Nat}
    (hsorted : ranges.Pairwise fun r s => r.1 ≤ s.1) :
    (∃ r ∈ joinRanges ranges, r.1 ≤ n ∧ n ≤ r.2) ↔ ∃ r ∈ ranges, r.1 ≤ n ∧ n ≤ r.2 := by
  fun_induction joinRanges ranges with
  | case1 a b c d rest htouch ih =>
    have hhead : a ≤ c := List.rel_of_pairwise_cons hsorted List.mem_cons_self
    have htail := List.Pairwise.of_cons hsorted
    have hjoined : ((a, max b d) :: rest).Pairwise fun r s => r.1 ≤ s.1 := by
      apply List.Pairwise.cons
      · intro s hs
        exact List.rel_of_pairwise_cons hsorted (List.mem_cons_of_mem _ hs)
      · exact htail.of_cons
    rw [ih hjoined]
    simp only [List.exists_mem_cons_iff]
    have hboth : a ≤ n ∧ n ≤ max b d ↔ (a ≤ n ∧ n ≤ b) ∨ (c ≤ n ∧ n ≤ d) := by omega
    rw [hboth, or_assoc]
  | case2 a b c d rest happart ih =>
    have htail := List.Pairwise.of_cons hsorted
    rw [List.exists_mem_cons_iff, List.exists_mem_cons_iff, ih htail]
  | case3 short => rfl

theorem containsCode_ofRanges {ranges : List (Nat × Nat)} {n : Nat} :
    (ofRanges ranges).containsCode n ↔ ∃ r ∈ ranges, r.1 ≤ n ∧ n ≤ r.2 := by
  have hsorted : ((ranges.filter fun r => r.1 ≤ r.2).mergeSort fun r s => decide (r.1 ≤ s.1)).Pairwise
      fun r s => decide (r.1 ≤ s.1) := by
    apply List.pairwise_mergeSort
    · simp only [decide_eq_true_eq]
      omega
    · simp only [Bool.or_eq_true, decide_eq_true_eq]
      omega
  rw [containsCode_iff, ofRanges, exists_joinRanges (by simpa using hsorted)]
  simp only [List.mem_mergeSort, List.mem_filter, decide_eq_true_eq]
  constructor
  · rintro ⟨r, ⟨hr, -⟩, hn⟩
    exact ⟨r, hr, hn⟩
  · rintro ⟨r, hr, hn⟩
    exact ⟨r, ⟨hr, by omega⟩, hn⟩

theorem contains_union {s t : CharSet} {c : Char} :
    (s.union t).contains c ↔ s.contains c ∨ t.contains c := by
  unfold contains union
  rw [containsCode_ofRanges, containsCode_iff, containsCode_iff]
  simp only [List.mem_append, or_and_right, exists_or]

theorem contains_ofChar {c d : Char} : (ofChar c).contains d ↔ d = c := by
  unfold contains
  rw [containsCode_iff]
  simp only [ofChar, List.mem_singleton, exists_eq_left]
  constructor
  · intro h
    exact Char.toNat_inj.1 (Nat.le_antisymm h.2 h.1)
  · rintro rfl
    exact ⟨Nat.le_refl _, Nat.le_refl _⟩

end UtilityCss.Unicode.CharSet
