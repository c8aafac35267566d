import Mathlib.Data.List.Forall2

/-! Computations that can fail: where one of several steps fails, the first failure is the answer. -/
namespace UtilityCss

variable {ε α β σ : Type}

theorem bind_eq_ok {x : Except ε α} {f : α → Except ε β} {b : β} :
    x >>= f = .ok b ↔ ∃ a, x = .ok a ∧ f a = .ok b := by
  cases x with
  | error e => simp [bind, Except.bind]
  | ok a => simp [bind, Except.bind]

theorem bind_eq_error {x : Except ε α} {f : α → Except ε β} {e : ε} :
    x >>= f = .error e ↔ x = .error e ∨ ∃ a, x = .ok a ∧ f a = .error e := by
  cases x with
  | error e => simp [bind, Except.bind]
  | ok a => simp [bind, Except.bind]

theorem mapError_eq_ok {x : Except ε α} {f : ε → σ} {a : α} :
    x.mapError f = .ok a ↔ x = .ok a := by
  cases x with
  | error e => simp [Except.mapError]
  | ok a => simp [Except.mapError]

theorem mapError_eq_error {x : Except ε α} {f : ε → σ} {e : σ} :
    x.mapError f = .error e ↔ ∃ cause, x = .error cause ∧ f cause = e := by
  cases x with
  | error e => simp [Except.mapError]
  | ok a => simp [Except.mapError]

theorem ok_bind (a : α) (f : α → Except ε β) : Except.ok a >>= f = f a := rfl

theorem foldlM_append_of_ok {step : σ → α → Except ε σ} {a b : σ} {front back : List α}
    (h : front.foldlM step a = .ok b) :
    (front ++ back).foldlM step a = back.foldlM step b := by
  rw [List.foldlM_append, h, ok_bind]

theorem foldlM_eq_error_iff {step : σ → α → Except ε σ} {items : List α} {init : σ} {e : ε} :
    items.foldlM step init = .error e ↔ ∃ front a back s, items = front ++ a :: back ∧
      front.foldlM step init = .ok s ∧ step s a = .error e := by
  constructor
  · intro h
    induction items generalizing init with
    | nil => nomatch h
    | cons a rest ih =>
      rw [List.foldlM_cons] at h
      obtain h | ⟨s, hs, h⟩ := bind_eq_error.1 h
      · exact ⟨[], a, rest, init, rfl, rfl, h⟩
      · obtain ⟨front, b, back, t, rfl, ht, hb⟩ := ih h
        refine ⟨a :: front, b, back, t, rfl, ?_, hb⟩
        rw [List.foldlM_cons, hs, ok_bind, ht]
  · rintro ⟨front, a, back, s, rfl, hs, h⟩
    rw [foldlM_append_of_ok hs, List.foldlM_cons, h]
    rfl

theorem foldlM_congr {step other : σ → α → Except ε σ} {items : List α}
    (h : ∀ a ∈ items, ∀ s, step s a = other s a) (s : σ) :
    items.foldlM step s = items.foldlM other s := by
  induction items generalizing s with
  | nil => rfl
  | cons a rest ih =>
    obtain ⟨ha, hrest⟩ := List.forall_mem_cons.1 h
    have hback : (fun s => rest.foldlM step s) = fun s => rest.foldlM other s := funext (ih hrest)
    rw [List.foldlM_cons, List.foldlM_cons, ha, hback]

variable {f : α → Except ε β} {items : List α}

theorem mapM_eq_ok_iff {results : List β} :
    items.mapM f = .ok results ↔ List.Forall₂ (fun a b => f a = .ok b) items results := by
  constructor
  · intro h
    induction items generalizing results with
    | nil =>
      obtain rfl := Except.ok.inj h
      exact .nil
    | cons a rest ih =>
      rw [List.mapM_cons] at h
      obtain ⟨b, hb, hrest⟩ := bind_eq_ok.1 h
      obtain ⟨bs, hbs, hresults⟩ := bind_eq_ok.1 hrest
      obtain rfl := Except.ok.inj hresults
      exact .cons hb (ih hbs)
  · intro h
    induction h with
    | nil => rfl
    | cons hb _ ih =>
      rw [List.mapM_cons, hb, ok_bind, ih]
      rfl

theorem mapM_eq_ok_map {g : α → β} (h : ∀ a ∈ items, f a = .ok (g a)) :
    items.mapM f = .ok (items.map g) :=
  mapM_eq_ok_iff.2 (List.forall₂_map_right_iff.2 (List.forall₂_same.2 h))

theorem exists_mapM_iff :
    (∃ results, items.mapM f = .ok results) ↔ ∀ a ∈ items, ∃ b, f a = .ok b := by
  simp only [mapM_eq_ok_iff]
  induction items with
  | nil => simp
  | cons a rest ih =>
    rw [List.forall_mem_cons, ← ih]
    constructor
    · rintro ⟨results, h⟩
      obtain ⟨b, bs, hb, hbs, -⟩ := List.forall₂_cons_left_iff.1 h
      exact ⟨⟨b, hb⟩, bs, hbs⟩
    · rintro ⟨⟨b, hb⟩, bs, hbs⟩
      exact ⟨b :: bs, .cons hb hbs⟩

theorem mapM_eq_error_iff {e : ε} :
    items.mapM f = .error e ↔ ∃ front a back, items = front ++ a :: back ∧
      (∀ x ∈ front, ∃ b, f x = .ok b) ∧ f a = .error e := by
  constructor
  · intro h
    induction items with
    | nil => nomatch h
    | cons a rest ih =>
      rw [List.mapM_cons] at h
      obtain ha | ⟨b, hb, h⟩ := bind_eq_error.1 h
      · exact ⟨[], a, rest, rfl, nofun, ha⟩
      · obtain hrest | ⟨bs, -, hok⟩ := bind_eq_error.1 h
        · obtain ⟨front, x, back, rfl, hfront, hx⟩ := ih hrest
          exact ⟨a :: front, x, back, rfl, List.forall_mem_cons.2 ⟨⟨b, hb⟩, hfront⟩, hx⟩
        · nomatch hok
  · rintro ⟨front, a, back, rfl, hfront, h⟩
    obtain ⟨bs, hbs⟩ := exists_mapM_iff.2 hfront
    rw [List.mapM_append, hbs, ok_bind, List.mapM_cons, h]
    rfl

end UtilityCss
