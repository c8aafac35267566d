import UtilityCss.Content.Candidate
import UtilityCss.Css.Identifier
import UtilityCss.Proofs.Text.Blank

/-!
Candidates of texts that are put together: a separator keeps the two sides apart. What stands between
separators is a candidate as it is, if it could be part of an identifier and begins with a letter or
a digit.
-/
namespace UtilityCss.Content

variable {c : Char} {token : String}

theorem candidates_append_separator (h : isSeparator c) (a b : List Char) :
    candidates (a ++ c :: b) = candidates a ++ candidates b := by
  rw [candidates, List.splitOnP_append_cons _ _ h, List.map_append, List.filter_append]
  rfl

theorem mem_extractTokens {text : String} :
    token ∈ extractTokens text ↔ token.toList ∈ candidates text.toList := by
  rw [extractTokens, Text.mem_distinct, List.mem_map]
  constructor
  · rintro ⟨candidate, hmem, rfl⟩
    rwa [String.toList_ofList]
  · intro hmem
    exact ⟨token.toList, hmem, String.ofList_toList⟩

theorem mem_extractTokens_push_append (h : isSeparator c) (a b : String) :
    token ∈ extractTokens (a.push c ++ b) ↔ token ∈ extractTokens a ∨ token ∈ extractTokens b := by
  have htext : (a.push c ++ b).toList = a.toList ++ c :: b.toList := by
    rw [String.toList_append, String.toList_push, List.append_assoc, List.singleton_append]
  rw [mem_extractTokens, htext, candidates_append_separator h, List.mem_append,
    mem_extractTokens, mem_extractTokens]

/-- A stretch of the text without separators, as long as can be. -/
def IsPiece (text piece : List Char) : Prop :=
  ∃ front back, text = front ++ piece ++ back ∧ (piece.all fun c => !isSeparator c) ∧
    front.getLast?.all isSeparator ∧ back.head?.all isSeparator

theorem mem_splitOnP_of_isPiece {text piece : List Char} (h : IsPiece text piece) :
    piece ∈ text.splitOnP isSeparator := by
  obtain ⟨front, back, rfl, hpiece, hfront, hback⟩ := h
  have hsingle : piece.splitOnP isSeparator = [piece] := by
    apply List.splitOnP_eq_singleton
    simpa using hpiece
  have hbehind : piece ∈ (piece ++ back).splitOnP isSeparator := by
    cases back with
    | nil =>
      rw [List.append_nil, hsingle]
      exact List.mem_singleton_self piece
    | cons c rest =>
      have hc : isSeparator c := hback
      rw [List.splitOnP_append_cons _ _ hc, hsingle]
      exact List.mem_cons_self
  cases hlast : front.getLast? with
  | none =>
    rw [List.getLast?_eq_none_iff.1 hlast]
    exact hbehind
  | some c =>
    rw [hlast] at hfront
    have hc : isSeparator c := hfront
    obtain ⟨before, rfl⟩ := List.getLast?_eq_some_iff.1 hlast
    rw [List.append_assoc, List.append_assoc, List.singleton_append,
      List.splitOnP_append_cons _ _ hc]
    exact List.mem_append_right _ hbehind

theorem isCandidateChar_of_isFragmentChar (h : Css.Identifier.isFragmentChar c) :
    isCandidateChar c := by
  simp only [Css.Identifier.isFragmentChar, Bool.or_eq_true, decide_eq_true_eq] at h
  obtain (h | rfl) | rfl := h
  · simp [isCandidateChar, h]
  · decide
  · decide

theorem not_isTrailing_of_isFragmentChar (h : Css.Identifier.isFragmentChar c) :
    isTrailing c = false := by
  rw [Bool.eq_false_iff]
  intro htrailing
  simp only [isTrailing, Bool.or_eq_true, decide_eq_true_eq] at htrailing
  obtain rfl | rfl := htrailing <;> exact absurd h (by decide)

theorem mem_candidates_of_isPiece {text piece : List Char} (h : IsPiece text piece)
    (hchars : piece.all Css.Identifier.isFragmentChar) (hhead : piece.head?.any Char.isAlphanum) :
    piece ∈ candidates text := by
  have hchars' := List.all_eq_true.1 hchars
  have htrim : Text.trimEnd isTrailing piece = piece :=
    Text.trimEnd_eq_self fun c hc => not_isTrailing_of_isFragmentChar (hchars' c hc)
  have hcandidate : isCandidate piece := by
    cases piece with
    | nil => nomatch hhead
    | cons c rest =>
      have hrest : rest.all isCandidateChar := List.all_eq_true.2 fun d hd =>
        isCandidateChar_of_isFragmentChar (hchars' d (List.mem_cons_of_mem c hd))
      have hc : c.isAlphanum := hhead
      simp [isCandidate, isCandidateStart, hc, hrest]
  refine List.mem_filter.2 ⟨List.mem_map.2 ⟨piece, mem_splitOnP_of_isPiece h, htrim⟩, hcandidate⟩

end UtilityCss.Content
