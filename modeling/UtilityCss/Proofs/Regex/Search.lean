import UtilityCss.Proofs.Regex.Code
import UtilityCss.Regex.Basic

/-!
The search finds a match where there is one. What it returns has been saved on the way to an
acceptance. When it returns nothing, what it has tried is closed under steps and holds no
acceptance, so none can be reached from there.
-/
namespace UtilityCss.Regex

variable {program : Array Instruction} {text : Array Char}

theorem search_sound {threads : List Thread} {tried : Array Bool} {slots : List (Nat × Nat)}
    (h : search program text threads tried = some slots) :
    ∃ t ∈ threads, ∃ n final, Reaches program text n t final ∧ final.slots = slots := by
  fun_induction search program text threads tried with
  | case1 tried => simp at h
  | case2 tried t rest htried haccept =>
    obtain rfl := Option.some.inj h
    exact ⟨t, by simp, 0, t.cursor, ⟨t.address, haccept, rfl⟩, rfl⟩
  | case3 tried t rest htried i hne hi ih =>
    obtain ⟨u, hu, n, final, hreach, hslots⟩ := ih h
    rcases List.mem_append.1 hu with hnext | hrest
    · exact ⟨t, by simp, n + 1, final, reaches_succ ⟨i, hi, hnext⟩ hreach, hslots⟩
    · exact ⟨u, by simp [hrest], n, final, hreach, hslots⟩
  | case4 tried t rest htried hnone ih =>
    obtain ⟨u, hu, hreach⟩ := ih h
    exact ⟨u, by simp [hu], hreach⟩
  | case5 tried t rest htried ih =>
    obtain ⟨u, hu, hreach⟩ := ih h
    exact ⟨u, by simp [hu], hreach⟩

theorem index_injective {t u : Thread} {n : Nat} (ht : t.position ≤ n) (hu : u.position ≤ n)
    (h : t.index n = u.index n) : t.address = u.address ∧ t.position = u.position := by
  unfold Thread.index at h
  have haddress : t.address = u.address := by
    have hdiv := congrArg (· / (n + 1)) h
    simpa [Nat.mul_add_div, Nat.mul_comm _ (n + 1), Nat.div_eq_of_lt (Nat.lt_succ_of_le ht),
      Nat.div_eq_of_lt (Nat.lt_succ_of_le hu)] using hdiv
  rw [haddress] at h
  exact ⟨haddress, Nat.add_left_cancel h⟩

theorem Step.position_le {t u : Thread} (h : Step program text t u)
    (ht : t.position ≤ text.size) : u.position ≤ text.size := by
  obtain ⟨i, -, hu⟩ := h
  cases i with
  | take s =>
    simp only [Thread.next] at hu
    split at hu
    · next c hc =>
      have hlt : t.position < text.size := (Array.getElem?_eq_some_iff.1 hc).1
      split at hu
      · obtain rfl := List.mem_singleton.1 hu
        exact hlt
      · simp at hu
    · simp at hu
  | look l =>
    by_cases hl : l.holds (if t.position = 0 then none else text[t.position - 1]?)
        text[t.position]?
    · simp only [Thread.next, hl, if_true, List.mem_singleton] at hu
      exact hu ▸ ht
    · simp [Thread.next, hl] at hu
  | save slot =>
    obtain rfl := List.mem_singleton.1 hu
    exact ht
  | split first second =>
    simp only [Thread.next, List.mem_cons, List.not_mem_nil, or_false] at hu
    rcases hu with rfl | rfl <;> exact ht
  | jump address =>
    obtain rfl := List.mem_singleton.1 hu
    exact ht
  | accept => simp [Thread.next] at hu

/-- What has been saved decides nothing about where a thread goes. -/
theorem exists_next_of_same_place {t u v : Thread} {i : Instruction} {n : Nat}
    (haddress : t.address = u.address) (hposition : t.position = u.position)
    (hv : v ∈ t.next text i) : ∃ w ∈ u.next text i, w.index n = v.index n := by
  obtain ⟨address, position, slots⟩ := t
  obtain ⟨address', position', slots'⟩ := u
  obtain rfl : address = address' := haddress
  obtain rfl : position = position' := hposition
  cases i with
  | take s =>
    simp only [Thread.next] at hv ⊢
    split at hv
    · split at hv
      · next c hc hs =>
        obtain rfl := List.mem_singleton.1 hv
        exact ⟨⟨address + 1, position + 1, slots'⟩, by simp [hs], rfl⟩
      · simp at hv
    · simp at hv
  | look l =>
    by_cases hl : l.holds (if position = 0 then none else text[position - 1]?) text[position]?
    · simp only [Thread.next, hl, if_true, List.mem_singleton] at hv
      subst hv
      exact ⟨⟨address + 1, position, slots'⟩, by simp [Thread.next, hl], rfl⟩
    · simp [Thread.next, hl] at hv
  | save slot =>
    obtain rfl := List.mem_singleton.1 hv
    exact ⟨_, List.mem_singleton.2 rfl, rfl⟩
  | split first second =>
    simp only [Thread.next, List.mem_cons, List.not_mem_nil, or_false] at hv
    rcases hv with rfl | rfl
    · exact ⟨_, List.mem_cons_self, rfl⟩
    · exact ⟨_, List.mem_cons_of_mem _ List.mem_cons_self, rfl⟩
  | jump address =>
    obtain rfl := List.mem_singleton.1 hv
    exact ⟨_, List.mem_singleton.2 rfl, rfl⟩
  | accept => simp [Thread.next] at hv

/-- The search will not try the thread again, nor one that stands at the same place. -/
def IsTried (text : Array Char) (tried : Array Bool) (t : Thread) : Prop :=
  tried[t.index text.size]? ≠ some false

def IsWaiting (text : Array Char) (threads : List Thread) (t : Thread) : Prop :=
  ∃ u ∈ threads, u.index text.size = t.index text.size

def IsCovered (text : Array Char) (threads : List Thread) (tried : Array Bool) (t : Thread) : Prop :=
  IsTried text tried t ∨ IsWaiting text threads t

/-- What has been tried is not accepted, and its steps lead to what has been tried or waits. -/
structure Settled (program : Array Instruction) (text : Array Char) (threads : List Thread)
    (tried : Array Bool) : Prop where
  inside : ∀ t ∈ threads, t.position ≤ text.size
  rejected : ∀ t, t.position ≤ text.size → IsTried text tried t →
    program[t.address]? ≠ some .accept
  closed : ∀ t u, t.position ≤ text.size → IsTried text tried t → Step program text t u →
    IsCovered text threads tried u

theorem isTried_set {tried : Array Bool} {t u : Thread} (h : t.index text.size < tried.size) :
    IsTried text (tried.set (t.index text.size) true h) u ↔
      t.index text.size = u.index text.size ∨ IsTried text tried u := by
  unfold IsTried
  rw [Array.getElem?_set]
  split
  · next heq => simp [heq]
  · next hne => simp [hne]

theorem IsCovered.skip {t u : Thread} {rest : List Thread} {tried : Array Bool}
    (h : IsCovered text (t :: rest) tried u) (ht : IsTried text tried t) :
    IsCovered text rest tried u := by
  rcases h with hu | ⟨w, hw, hindex⟩
  · exact .inl hu
  · rcases List.mem_cons.1 hw with rfl | hrest
    · rw [IsTried, hindex] at ht
      exact .inl ht
    · exact .inr ⟨w, hrest, hindex⟩

theorem IsCovered.advance {t u : Thread} {rest : List Thread} {tried : Array Bool}
    (h : IsCovered text (t :: rest) tried u) (hbound : t.index text.size < tried.size)
    (next : List Thread) :
    IsCovered text (next ++ rest) (tried.set (t.index text.size) true hbound) u := by
  rw [IsCovered, isTried_set]
  rcases h with hu | ⟨w, hw, hindex⟩
  · exact .inl (.inr hu)
  · rcases List.mem_cons.1 hw with rfl | hrest
    · exact .inl (.inl hindex)
    · exact .inr ⟨w, List.mem_append_right next hrest, hindex⟩

/-- A thread that has been tried already need not be tried again. -/
theorem Settled.skip {t : Thread} {rest : List Thread} {tried : Array Bool}
    (h : Settled program text (t :: rest) tried) (ht : IsTried text tried t) :
    Settled program text rest tried where
  inside := fun u hu => h.inside u (List.mem_cons_of_mem t hu)
  rejected := h.rejected
  closed := fun u v hu htried hstep => (h.closed u v hu htried hstep).skip ht

theorem Settled.advance {t : Thread} {rest next : List Thread} {tried : Array Bool}
    (h : Settled program text (t :: rest) tried) (hbound : t.index text.size < tried.size)
    (hreject : program[t.address]? ≠ some .accept)
    (hnext : ∀ u, u ∈ next ↔ Step program text t u) :
    Settled program text (next ++ rest) (tried.set (t.index text.size) true hbound) where
  inside := by
    intro u hu
    rcases List.mem_append.1 hu with hu | hu
    · exact ((hnext u).1 hu).position_le (h.inside t List.mem_cons_self)
    · exact h.inside u (List.mem_cons_of_mem t hu)
  rejected := by
    intro u hu htried
    rcases (isTried_set hbound).1 htried with hsame | htried
    · rw [← (index_injective (h.inside t List.mem_cons_self) hu hsame).1]
      exact hreject
    · exact h.rejected u hu htried
  closed := by
    intro u v hu htried hstep
    rcases (isTried_set hbound).1 htried with hsame | htried
    · obtain ⟨haddress, hposition⟩ :=
        index_injective (h.inside t List.mem_cons_self) hu hsame
      obtain ⟨i, hi, hv⟩ := hstep
      obtain ⟨w, hw, hindex⟩ :=
        exists_next_of_same_place (n := text.size) haddress.symm hposition.symm hv
      have hmem : w ∈ next := (hnext w).2 ⟨i, haddress ▸ hi, hw⟩
      exact .inr ⟨w, List.mem_append_left rest hmem, hindex⟩
    · exact (h.closed u v hu htried hstep).advance hbound next

theorem Settled.not_reaches {tried : Array Bool} (h : Settled program text [] tried) {t : Thread}
    (ht : t.position ≤ text.size) (htried : IsTried text tried t) {n : Nat} {final : Cursor} :
    ¬ Reaches program text n t final := by
  rintro ⟨address, haccept, hrun⟩
  induction n generalizing t with
  | zero =>
    apply h.rejected t ht htried
    rw [hrun]
    exact haccept
  | succ n ih =>
    obtain ⟨u, hstep, hrest⟩ := hrun
    rcases h.closed t u ht htried hstep with hu | ⟨v, hv, -⟩
    · exact ih (hstep.position_le ht) hu hrest
    · simp at hv

/-- When the search returns nothing, nothing is reached from what it was given. -/
theorem search_complete {threads : List Thread} {tried : Array Bool}
    (h : search program text threads tried = none)
    (hsettled : Settled program text threads tried) {t : Thread} (ht : t.position ≤ text.size)
    (hcovered : IsCovered text threads tried t) {n : Nat} {final : Cursor} :
    ¬ Reaches program text n t final := by
  -- Each turn of the search keeps what has been tried settled, and the thread covered.
  fun_induction search program text threads tried with
  | case1 tried =>
    rcases hcovered with htried | ⟨u, hu, -⟩
    · exact hsettled.not_reaches ht htried
    · simp at hu
  | case2 tried u rest huntried haccept => simp at h
  | case3 tried u rest huntried i hne hi ih =>
    have hreject : program[u.address]? ≠ some .accept := by
      rw [hi]
      intro heq
      exact hne (Option.some.inj heq)
    have hnext : ∀ v, v ∈ u.next text i ↔ Step program text u v := by
      intro v
      constructor
      · intro hv
        exact ⟨i, hi, hv⟩
      · rintro ⟨j, hj, hv⟩
        rw [hi] at hj
        obtain rfl := Option.some.inj hj
        exact hv
    exact ih h (hsettled.advance huntried.1 hreject hnext) (hcovered.advance huntried.1 _)
  | case4 tried u rest huntried hnone ih =>
    have hnext : ∀ v, v ∈ ([] : List Thread) ↔ Step program text u v := by
      intro v
      constructor
      · intro hv
        simp at hv
      · rintro ⟨j, hj, -⟩
        rw [hnone] at hj
        simp at hj
    exact ih h (hsettled.advance huntried.1 (by simp [hnone]) hnext)
      (hcovered.advance huntried.1 [])
  | case5 tried u rest htried ih =>
    have hu : IsTried text tried u := by
      intro hfalse
      exact htried (Array.getElem?_eq_some_iff.1 hfalse)
    exact ih h (hsettled.skip hu) (hcovered.skip hu)

theorem settled_starts :
    Settled program text (starts text.size)
      (Array.replicate (program.size * (text.size + 1)) false) := by
  have houtside : ∀ t : Thread, t.position ≤ text.size →
      IsTried text (Array.replicate (program.size * (text.size + 1)) false) t →
        program[t.address]? = none := by
    intro t ht htried
    apply Array.getElem?_eq_none
    by_contra hlt
    have hrow : t.address + 1 ≤ program.size := by omega
    have hbound := Nat.mul_le_mul_right (text.size + 1) hrow
    rw [Nat.add_mul, Nat.one_mul] at hbound
    apply htried
    rw [Array.getElem?_replicate, if_pos]
    unfold Thread.index
    omega
  constructor
  · intro t ht
    obtain ⟨position, hposition, rfl⟩ := List.mem_map.1 ht
    exact Nat.le_of_lt_succ (List.mem_range.1 hposition)
  · intro t ht htried
    simp [houtside t ht htried]
  · rintro t u ht htried ⟨i, hi, -⟩
    simp [houtside t ht htried] at hi

theorem mem_starts {t : Thread} {n : Nat} : t ∈ starts n ↔ ∃ i ≤ n, t = (⟨i, []⟩ : Cursor).at 0 := by
  unfold starts
  simp only [List.mem_map, List.mem_range, Nat.lt_succ_iff]
  constructor
  · rintro ⟨i, hi, rfl⟩
    exact ⟨i, hi, rfl⟩
  · rintro ⟨i, hi, rfl⟩
    exact ⟨i, hi, rfl⟩

theorem firstMatch_sound {e : Expr} {slots : List (Nat × Nat)}
    (h : firstMatch e.program text = some slots) :
    ∃ i ≤ text.size, ∃ j, e.Matches text ⟨i, []⟩ ⟨j, slots⟩ := by
  obtain ⟨t, ht, n, ⟨j, saved⟩, hreach, rfl⟩ := search_sound h
  obtain ⟨i, hi, rfl⟩ := mem_starts.1 ht
  exact ⟨i, hi, j, Expr.reaches_program.1 ⟨n, hreach⟩⟩

theorem firstMatch_complete {e : Expr} {i : Nat} {b : Cursor} (hi : i ≤ text.size)
    (h : e.Matches text ⟨i, []⟩ b) : (firstMatch e.program text).isSome := by
  rw [Option.isSome_iff_ne_none]
  intro hnone
  obtain ⟨n, hreach⟩ := Expr.reaches_program.2 h
  have hstart : IsWaiting text (starts text.size) ((⟨i, []⟩ : Cursor).at 0) :=
    ⟨_, mem_starts.2 ⟨i, hi, rfl⟩, rfl⟩
  exact search_complete hnone settled_starts hi (.inr hstart) hreach

theorem Expr.Matches.position_le {e : Expr} {a b : Cursor} (h : e.Matches text a b)
    (ha : a.position ≤ text.size) : b.position ≤ text.size := by
  induction e generalizing a b with
  | empty => exact h ▸ ha
  | set s =>
    obtain ⟨⟨c, hc, -⟩, rfl⟩ := h
    exact (Array.getElem?_eq_some_iff.1 hc).1
  | look l => exact h.2 ▸ ha
  | capture index body ih =>
    obtain ⟨c, hc, rfl⟩ := h
    have hbody : c.position ≤ text.size := ih hc ha
    exact hbody
  | repetition min max lazy body ih =>
    obtain ⟨n, -, -, hn⟩ := h
    induction n generalizing a with
    | zero => exact hn ▸ ha
    | succ n ihTurn =>
      obtain ⟨c, hc, hrest⟩ := hn
      exact ihTurn (ih hc ha) hrest
  | cat first second ihFirst ihSecond =>
    obtain ⟨c, hc, hb⟩ := h
    exact ihSecond hb (ihFirst hc ha)
  | alt first second ihFirst ihSecond =>
    rcases h with h | h
    · exact ihFirst h ha
    · exact ihSecond h ha

end UtilityCss.Regex
