import Mathlib.Data.List.Lex
import UtilityCss.File.Path

/-!
The order of paths. Paths compare component by component and not by their texts, and neither do they
stand in two places: paths of the same components take one place, and all others have an order.
-/
namespace UtilityCss.Path

variable {a b c : Component} {l m n : List Component} {p q r : Path}

namespace Component

/-- Steps of another kind come in the order of the kinds, and names in that of their texts. -/
def Before (a b : Component) : Prop := a.rank < b.rank ∨ a.rank = b.rank ∧ a.text < b.text

theorem lt_iff_before : a.lt b ↔ a.Before b := by
  simp [lt, Before]

theorem eq_of_rank_of_text (hrank : a.rank = b.rank) (htext : a.text = b.text) : a = b := by
  cases a <;> cases b <;> simp_all [rank, text]

theorem Before.trans (hab : a.Before b) (hbc : b.Before c) : a.Before c := by
  obtain hrank | ⟨hrank, htext⟩ := hab
  · obtain hrank' | ⟨hrank', -⟩ := hbc
    · exact .inl (hrank.trans hrank')
    · exact .inl (hrank' ▸ hrank)
  · obtain hrank' | ⟨hrank', htext'⟩ := hbc
    · exact .inl (hrank ▸ hrank')
    · exact .inr ⟨hrank.trans hrank', String.lt_trans htext htext'⟩

instance : Std.Asymm Before where
  asymm := by
    rintro a b (hrank | ⟨hrank, htext⟩) (hrank' | ⟨hrank', htext'⟩)
    · omega
    · omega
    · omega
    · exact String.lt_asymm htext htext'

instance : Std.Trichotomous Before where
  trichotomous := by
    intro a b hab hba
    simp only [Before, not_or, not_and, Nat.not_lt] at hab hba
    have hrank : a.rank = b.rank := Nat.le_antisymm hba.1 hab.1
    exact eq_of_rank_of_text hrank
      (String.le_antisymm (hba.2 hrank.symm) (hab.2 hrank))

end Component

/-- The path comes first, component by component. -/
def Before (p q : Path) : Prop := List.Lex Component.Before p.components q.components

theorem componentsLe_iff : componentsLe l m ↔ l = m ∨ List.Lex Component.Before l m := by
  fun_induction componentsLe l m with
  | case1 m =>
    cases m with
    | nil => simp
    | cons b m => simp
  | case2 a l => simp
  | case3 a l b m ih =>
    rw [Bool.or_eq_true, Bool.and_eq_true, decide_eq_true_eq, Component.lt_iff_before, ih]
    constructor
    · rintro (hab | ⟨rfl, rfl | hlex⟩)
      · exact .inr (.rel hab)
      · exact .inl rfl
      · exact .inr (.cons hlex)
    · rintro (hsame | hlex)
      · obtain ⟨rfl, rfl⟩ := List.cons.inj hsame
        exact .inr ⟨rfl, .inl rfl⟩
      · cases hlex with
        | rel hab => exact .inl hab
        | cons hlex => exact .inr ⟨rfl, .inr hlex⟩

theorem le_iff : p.le q ↔ p.components = q.components ∨ p.Before q := componentsLe_iff

theorem Before.trans (hpq : p.Before q) (hqr : q.Before r) : p.Before r :=
  List.lex_trans Component.Before.trans hpq hqr

theorem le_trans (hpq : p.le q) (hqr : q.le r) : p.le r := by
  rw [le_iff, Before] at *
  obtain hsame | hbefore := hpq
  · rwa [hsame]
  · obtain hsame | hbefore' := hqr
    · rw [hsame] at hbefore
      exact .inr hbefore
    · exact .inr (Before.trans hbefore hbefore')

theorem le_total (p q : Path) : p.le q || q.le p := by
  rw [Bool.or_eq_true, le_iff, le_iff]
  by_cases hpq : p.Before q
  · exact .inl (.inr hpq)
  by_cases hqp : q.Before p
  · exact .inr (.inr hqp)
  · exact .inl (.inl (Std.Trichotomous.trichotomous _ _ hpq hqp))

theorem before_of_le (h : p.le q) (hne : p.same q = false) : p.Before q :=
  (le_iff.1 h).resolve_left (of_decide_eq_false hne)

end UtilityCss.Path
