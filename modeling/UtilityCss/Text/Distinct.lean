/-! Sets of strings as strictly ascending lists. Strings compare by code point. -/
namespace UtilityCss.Text

def dropRepeats : List String → List String
  | a :: b :: rest => if a = b then dropRepeats (b :: rest) else a :: dropRepeats (b :: rest)
  | short => short

def distinct (strings : List String) : List String :=
  dropRepeats (strings.mergeSort (fun a b => decide (a ≤ b)))

@[simp] theorem mem_dropRepeats {a : String} {l : List String} : a ∈ dropRepeats l ↔ a ∈ l := by
  fun_induction dropRepeats l with
  | case1 b rest ih => simp [ih]
  | case2 b c rest h ih => simp [ih]
  | case3 => rfl

@[simp] theorem mem_distinct {a : String} {l : List String} : a ∈ distinct l ↔ a ∈ l := by
  simp [distinct]

/-- What is left of an ascending list ascends strictly. -/
theorem pairwise_dropRepeats {l : List String} (h : l.Pairwise (· ≤ ·)) :
    (dropRepeats l).Pairwise (· < ·) := by
  fun_induction dropRepeats l with
  | case1 b rest ih => exact ih (List.pairwise_cons.1 h).2
  | case2 a b rest hne ih =>
    obtain ⟨ha, hrest⟩ := List.pairwise_cons.1 h
    have hab : a < b := by
      by_cases hlt : a < b
      · exact hlt
      · exact absurd (String.le_antisymm (ha b (by simp)) hlt) hne
    refine List.pairwise_cons.2 ⟨fun x hx => ?_, ih hrest⟩
    rcases List.mem_cons.1 (mem_dropRepeats.1 hx) with rfl | hx
    · exact hab
    · exact Std.lt_of_lt_of_le hab ((List.pairwise_cons.1 hrest).1 x hx)
  | case3 short hshort =>
    match short, hshort, h with
    | [], _, _ => exact .nil
    | [a], _, _ => simp
    | a :: b :: rest, hshort, _ => exact absurd rfl (hshort a b rest)

theorem pairwise_distinct (strings : List String) : (distinct strings).Pairwise (· < ·) := by
  apply pairwise_dropRepeats
  have trans : ∀ a b c : String, decide (a ≤ b) → decide (b ≤ c) → decide (a ≤ c) :=
    fun a b c h h' => decide_eq_true (String.le_trans (of_decide_eq_true h) (of_decide_eq_true h'))
  have total : ∀ a b : String, (decide (a ≤ b) || decide (b ≤ a)) = true :=
    fun a b => by simpa using String.le_total a b
  exact (List.pairwise_mergeSort trans total strings).imp of_decide_eq_true

end UtilityCss.Text
