import Mathlib.Data.List.Basic

/-! Stable sorting by a numeric key collects the members of each key in turn. -/
namespace UtilityCss.StableSort

variable {α : Type}

def byKey (key : α → Nat) (a b : α) : Bool := decide (key a ≤ key b)

theorem filter_append_filter_not {p : α → Bool} {l : List α}
    (h : l.Pairwise fun a b => p b → p a) :
    l.filter p ++ l.filter (fun a => !p a) = l := by
  induction l with
  | nil => rfl
  | cons a rest ih =>
    obtain ⟨ha, hrest⟩ := List.pairwise_cons.1 h
    by_cases hp : p a
    · simp [hp, ih hrest]
    · have hnone : rest.filter p = [] :=
        List.filter_eq_nil_iff.2 fun b hb hpb => hp (ha b hb hpb)
      have hall : rest.filter (fun a => !p a) = rest :=
        List.filter_eq_self.2 fun b hb => by
          simpa using fun hpb => hp (ha b hb hpb)
      simp [hp, hnone, hall]

theorem flatMap_filter_key {key : α → Nat} {n : Nat} {l : List α}
    (sorted : l.Pairwise fun a b => key a ≤ key b) (bound : ∀ a ∈ l, key a < n) :
    ((List.range n).flatMap fun i => l.filter fun a => key a = i) = l := by
  induction n generalizing l with
  | zero =>
    have hnil : l = [] := List.eq_nil_iff_forall_not_mem.2 fun a ha =>
      Nat.not_lt_zero _ (bound a ha)
    simp [hnil]
  | succ n ih =>
    let low := l.filter fun a => key a < n
    have hlow : ((List.range n).flatMap fun i => low.filter fun a => key a = i) = low := by
      apply ih (sorted.filter _)
      intro a ha
      simpa using (List.mem_filter.1 ha).2
    have hsame : ∀ i ∈ List.range n,
        (low.filter fun a => key a = i) = l.filter fun a => key a = i := by
      intro i hi
      rw [List.filter_filter]
      apply List.filter_congr
      intro a _
      have hin : i < n := List.mem_range.1 hi
      by_cases hk : key a = i
      · simp [hk, hin]
      · simp [hk]
    have hlast : (l.filter fun a => key a = n) = l.filter fun a => !decide (key a < n) := by
      apply List.filter_congr
      intro a ha
      have := bound a ha
      by_cases hk : key a = n
      · simp [hk]
      · have : key a < n := by omega
        simp [hk, this]
    -- What has the last key stands at the end, so the members below it come first as they are.
    have hdown : l.Pairwise fun a b => decide (key b < n) → decide (key a < n) :=
      sorted.imp fun hab hb => decide_eq_true (Nat.lt_of_le_of_lt hab (of_decide_eq_true hb))
    rw [List.range_succ, List.flatMap_append, List.flatMap_singleton, hlast,
      ← List.flatMap_congr hsame, hlow]
    exact filter_append_filter_not hdown

theorem byKey_trans (key : α → Nat) (a b c : α) (hab : byKey key a b) (hbc : byKey key b c) :
    byKey key a c :=
  decide_eq_true (Nat.le_trans (of_decide_eq_true hab) (of_decide_eq_true hbc))

theorem byKey_total (key : α → Nat) (a b : α) : byKey key a b || byKey key b a := by
  simpa [byKey] using Nat.le_total (key a) (key b)

theorem filter_mergeSort (key : α → Nat) (l : List α) (i : Nat) :
    ((l.mergeSort (byKey key)).filter fun a => key a = i) = l.filter fun a => key a = i := by
  let group := l.filter fun a => key a = i
  have hkey : ∀ a ∈ group, key a = i := fun a ha => by
    simpa using (List.mem_filter.1 ha).2
  have hsorted : group.Pairwise fun a b => byKey key a b :=
    List.pairwise_of_forall_mem_list fun a ha b hb =>
      decide_eq_true (Nat.le_of_eq ((hkey a ha).trans (hkey b hb).symm))
  have hsub : group.Sublist (l.mergeSort (byKey key)) :=
    List.sublist_mergeSort (byKey_trans key) (byKey_total key) hsorted List.filter_sublist
  have hfilter : group.Sublist ((l.mergeSort (byKey key)).filter fun a => key a = i) := by
    simpa [group] using hsub.filter fun a => key a = i
  have hlength : ((l.mergeSort (byKey key)).filter fun a => key a = i).length = group.length :=
    ((List.mergeSort_perm l (byKey key)).filter _).length_eq
  exact (hfilter.eq_of_length hlength.symm).symm

/-- The sorted list, key by key. -/
theorem mergeSort_eq_flatMap {key : α → Nat} {n : Nat} {l : List α}
    (bound : ∀ a ∈ l, key a < n) :
    l.mergeSort (byKey key) = (List.range n).flatMap fun i => l.filter fun a => key a = i := by
  have hsorted : (l.mergeSort (byKey key)).Pairwise fun a b => key a ≤ key b :=
    (List.pairwise_mergeSort (byKey_trans key) (byKey_total key) l).imp of_decide_eq_true
  have hbound : ∀ a ∈ l.mergeSort (byKey key), key a < n := fun a ha =>
    bound a (List.mem_mergeSort.1 ha)
  calc l.mergeSort (byKey key)
      = (List.range n).flatMap fun i => (l.mergeSort (byKey key)).filter fun a => key a = i :=
        (flatMap_filter_key hsorted hbound).symm
    _ = (List.range n).flatMap fun i => l.filter fun a => key a = i :=
        List.flatMap_congr fun i _ => filter_mergeSort key l i

end UtilityCss.StableSort
