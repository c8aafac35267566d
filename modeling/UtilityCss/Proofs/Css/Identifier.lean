import UtilityCss.Css.Identifier
import UtilityCss.Proofs.Text.Blank

/-! What needs no escape: pieces of identifiers that begin with neither a digit nor a dash are
written as they are. -/
namespace UtilityCss.Css.Identifier

theorem escapeInner_of_isFragmentChar {c : Char} (h : isFragmentChar c) : escapeInner c = [c] := by
  simp only [isFragmentChar, Bool.or_eq_true, decide_eq_true_eq] at h
  obtain (halphanum | rfl) | rfl := h
  · have hplain : isPlain c := by simp [isPlain, halphanum]
    have hzero : c ≠ '\x00' := by
      rintro rfl
      nomatch halphanum
    have hcontrol : isControl c = false := by
      rw [Text.isAlphanum_iff] at halphanum
      simp only [isControl, Bool.or_eq_false_iff, decide_eq_false_iff_not]
      omega
    simp [escapeInner, hzero, hcontrol, hplain]
  · rfl
  · rfl

theorem flatMap_escapeInner {text : List Char} (h : text.all isFragmentChar) :
    text.flatMap escapeInner = text := by
  induction text with
  | nil => rfl
  | cons c rest ih =>
    simp only [List.all_cons, Bool.and_eq_true] at h
    rw [List.flatMap_cons, escapeInner_of_isFragmentChar h.1, ih h.2]
    rfl

/-- A dash in front is the one character that is written by what follows it. -/
theorem escapeChars_cons {c : Char} (h : c ≠ '-') (rest : List Char) :
    escapeChars (c :: rest) = escapeLeading c ++ rest.flatMap escapeInner := by
  rw [escapeChars.eq_def]
  split
  all_goals simp_all

theorem escapeChars_of_isFragmentChar {text : List Char} (h : text.all isFragmentChar)
    (hfirst : ∀ c ∈ text.head?, c ≠ '-' ∧ c.isDigit = false) : escapeChars text = text := by
  cases text with
  | nil => rfl
  | cons c rest =>
    obtain ⟨hdash, hdigit⟩ := hfirst c rfl
    simp only [List.all_cons, Bool.and_eq_true] at h
    rw [escapeChars_cons hdash, escapeLeading, hdigit, escapeInner_of_isFragmentChar h.1,
      flatMap_escapeInner h.2]
    rfl

theorem classSelector_of_isFragmentChar {token : String} (h : token.toList.all isFragmentChar)
    (hfirst : ∀ c ∈ token.toList.head?, c ≠ '-' ∧ c.isDigit = false) :
    classSelector token = "." ++ token := by
  rw [classSelector, escape, escapeChars_of_isFragmentChar h hfirst, String.ofList_toList]

end UtilityCss.Css.Identifier
