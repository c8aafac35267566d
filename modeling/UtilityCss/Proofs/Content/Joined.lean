import Mathlib.Data.List.Sort
import UtilityCss.Proofs.Content.Extract

/-!
The tokens of a text as a set. A separator keeps what stands on its two sides apart, and a token is
found again, whole and by itself, in every text that is put together from tokens and separators.
-/
namespace UtilityCss.Content

structure IsToken (token : String) : Prop where
  start : token.toList.head?.any fun c => c.isAlphanum || c = '-'
  word : token.toList.any Char.isAlphanum
  finish : token.toList.getLast?.all fun c => c ≠ '.' && c ≠ ':'
  chars : token.toList.all fun c => c.isAlphanum || "_-:[]/.%#()".toList.contains c

/-- The text holds the tokens in this order, with separators between them and nothing else. -/
inductive Joined : List String → List Char → Prop
  | nil : Joined [] []
  | separator {tokens text c} (h : isSeparator c) (rest : Joined tokens text) :
    Joined tokens (c :: text)
  | token {tokens text} (token : String) (h : text.head?.all isSeparator)
    (rest : Joined tokens text) : Joined (token :: tokens) (token.toList ++ text)

variable {c : Char} {token : String} {tokens : List String} {text : List Char}

theorem isSeparator_iff :
    isSeparator c ↔ Text.isBlank c ∨ c ∈ "\"'\x60<>=\x7b\x7d;,".toList := by
  simp [isSeparator, or_assoc]

theorem isCandidateChar_iff :
    isCandidateChar c ↔ c.isAlphanum || "_-:[]/.%#()".toList.contains c := by
  simp [isCandidateChar, or_assoc]

theorem isSeparator_of_isCandidateChar (h : isCandidateChar c) : isSeparator c = false := by
  have hmarks : "\"'\x60<>=\x7b\x7d;,".toList.any isCandidateChar = false := by decide
  have hblanks : "_-:[]/.%#()".toList.any Text.isBlank = false := by decide
  rw [Bool.eq_false_iff]
  intro hseparator
  obtain hblank | hmark := isSeparator_iff.1 hseparator
  · obtain halphanum | hchar := Bool.or_eq_true_iff.1 (isCandidateChar_iff.1 h)
    · rw [Text.isBlank_of_isAlphanum halphanum] at hblank
      nomatch hblank
    · exact List.any_eq_false.1 hblanks c (List.contains_iff_mem.1 hchar) hblank
  · exact List.any_eq_false.1 hmarks c hmark h

theorem isCandidate_iff : isCandidate text ↔
    text.head?.any isCandidateStart ∧ text.all isCandidateChar ∧ text.any Char.isAlphanum := by
  cases text with
  | nil => simp [isCandidate]
  | cons c rest =>
    have hstart : isCandidateStart c → isCandidateChar c := by
      intro h
      simp only [isCandidateStart, Bool.or_eq_true, decide_eq_true_eq] at h
      obtain h | rfl := h
      · simp [isCandidateChar, h]
      · decide
    simp only [isCandidate, Bool.and_eq_true, List.head?_cons, Option.any_some, List.all_cons]
    tauto

theorem isToken_iff : IsToken token ↔
    isCandidate token.toList ∧ token.toList.getLast?.all fun c => !isTrailing c := by
  have hchars : (token.toList.all fun c => c.isAlphanum || "_-:[]/.%#()".toList.contains c) =
      token.toList.all isCandidateChar := by
    congr 1
    funext c
    rw [Bool.eq_iff_iff, isCandidateChar_iff]
  have hfinish : (fun c => decide (c ≠ '.') && decide (c ≠ ':')) = fun c => !isTrailing c := by
    funext c
    simp [isTrailing]
  rw [isCandidate_iff]
  constructor
  · intro h
    exact ⟨⟨h.start, hchars ▸ h.chars, h.word⟩, hfinish ▸ h.finish⟩
  · rintro ⟨⟨hstart, hall, hword⟩, hlast⟩
    exact ⟨hstart, hword, hfinish ▸ hlast, hchars ▸ hall⟩

theorem candidates_of_isToken (h : IsToken token) : candidates token.toList = [token.toList] := by
  obtain ⟨hcandidate, hlast⟩ := isToken_iff.1 h
  have hnot : ∀ c ∈ token.toList, isSeparator c = false := by
    intro c hc
    exact isSeparator_of_isCandidateChar (List.all_eq_true.1 (isCandidate_iff.1 hcandidate).2.1 c hc)
  rw [candidates, List.splitOnP_eq_singleton hnot, List.map_singleton,
    Text.trimEnd_eq_self_of_getLast? hlast, List.filter_singleton, hcandidate]
  rfl

theorem isToken_of_mem_extractTokens {text : String} (h : token ∈ extractTokens text) :
    IsToken token := by
  obtain ⟨hmem, hcandidate⟩ := List.mem_filter.1 (mem_extractTokens.1 h)
  obtain ⟨piece, -, hpiece⟩ := List.mem_map.1 hmem
  exact isToken_iff.2 ⟨hcandidate, hpiece ▸ Text.getLast?_trimEnd isTrailing piece⟩

theorem candidates_cons_separator (h : isSeparator c) (text : List Char) :
    candidates (c :: text) = candidates text :=
  candidates_append_separator h [] text

/-- The candidates of a text that is put together from tokens are the tokens, in their order. -/
theorem candidates_of_joined (h : Joined tokens text) (htokens : ∀ token ∈ tokens, IsToken token) :
    candidates text = tokens.map String.toList := by
  induction h with
  | nil => rfl
  | separator hc rest ih => rw [candidates_cons_separator hc, ih htokens]
  | @token tokens text token hhead rest ih =>
    obtain ⟨htoken, hrest⟩ := List.forall_mem_cons.1 htokens
    rw [List.map_cons, ← ih hrest, ← List.singleton_append, ← candidates_of_isToken htoken]
    cases text with
    | nil =>
      rw [List.append_nil]
      exact (List.append_nil _).symm
    | cons c text =>
      have hc : isSeparator c := hhead
      rw [candidates_append_separator hc, candidates_cons_separator hc]

theorem mem_extractTokens_of_joined (h : Joined tokens text)
    (htokens : ∀ token ∈ tokens, IsToken token) :
    token ∈ extractTokens (String.ofList text) ↔ token ∈ tokens := by
  rw [mem_extractTokens, String.toList_ofList, candidates_of_joined h htokens,
    List.mem_map_of_injective fun _ _ => String.toList_inj.1]

theorem pairwise_extractTokens (text : String) : (extractTokens text).Pairwise (· < ·) :=
  Text.pairwise_distinct _

/-- Tokens are listed once each, ascending. Those of two texts with a separator between them are
those of either. Put together in any order, with any separators, they are the tokens of the text
that this gives. The tokens of all texts are the texts that look like tokens. -/
theorem extractTokens_stable :
    (∀ text, (extractTokens text).Pairwise (· < ·)) ∧
    (∀ (a b : String) (c : Char), Text.isBlank c ∨ c ∈ "\"'\x60<>=\x7b\x7d;,".toList →
      ∀ token, token ∈ extractTokens (a ++ String.singleton c ++ b) ↔
        token ∈ extractTokens a ∨ token ∈ extractTokens b) ∧
    (∀ (text : String) (tokens : List String) (joined : String),
      tokens.Perm (extractTokens text) → Joined tokens joined.toList →
      extractTokens joined = extractTokens text) ∧
    (∀ token, (∃ text, token ∈ extractTokens text) ↔ IsToken token) := by
  refine ⟨pairwise_extractTokens, ?_, ?_, ?_⟩
  · intro a b c hc token
    rw [← String.push_eq_append]
    exact mem_extractTokens_push_append (isSeparator_iff.2 hc) a b
  · intro text tokens joined hperm hjoined
    apply (pairwise_extractTokens joined).eq_of_mem_iff (pairwise_extractTokens text)
    have htokens : ∀ token ∈ tokens, IsToken token :=
      fun token h => isToken_of_mem_extractTokens (hperm.mem_iff.1 h)
    intro token
    rw [← hperm.mem_iff, ← mem_extractTokens_of_joined hjoined htokens, String.ofList_toList]
  · intro token
    constructor
    · rintro ⟨text, h⟩
      exact isToken_of_mem_extractTokens h
    · intro h
      refine ⟨token, mem_extractTokens.2 ?_⟩
      rw [candidates_of_isToken h]
      exact List.mem_singleton_self _

theorem extractTokens_stable_reordered :
    extractTokens "md:flow, -x. md:flow" = ["-x", "md:flow"] ∧
      extractTokens "md:flow=>\u2003-x;" = extractTokens "md:flow, -x. md:flow" ∧
      (∀ token, token ∈ extractTokens ("md:flow:" ++ String.singleton '\u2003' ++ "-x.") ↔
        token ∈ extractTokens "md:flow:" ∨ token ∈ extractTokens "-x.") ∧
      IsToken "-x" := by
  obtain ⟨-, hunion, hstable, htoken⟩ := extractTokens_stable
  have hcandidates : candidates "md:flow, -x. md:flow".toList =
      ["md:flow", "-x", "md:flow"].map String.toList := by decide
  have htokens : extractTokens "md:flow, -x. md:flow" = ["-x", "md:flow"] := by
    apply (pairwise_extractTokens _).eq_of_mem_iff (by decide)
    intro token
    rw [mem_extractTokens, hcandidates, List.mem_map_of_injective fun _ _ => String.toList_inj.1]
    simp only [List.mem_cons, List.not_mem_nil, or_false]
    tauto
  have hlast : Joined ["-x"] ("-x".toList ++ [';']) :=
    .token "-x" (by decide) (.separator (by decide) .nil)
  have hjoined : Joined ["md:flow", "-x"]
      ("md:flow".toList ++ '=' :: '>' :: '\u2003' :: ("-x".toList ++ [';'])) :=
    .token "md:flow" (by decide)
      (.separator (by decide) (.separator (by decide) (.separator (by decide) hlast)))
  refine ⟨htokens, ?_, hunion _ _ '\u2003' (.inl (by decide)), ?_⟩
  · exact hstable _ _ _ (htokens ▸ .swap _ _ _) hjoined
  · exact (htoken "-x").1 ⟨_, htokens ▸ List.mem_cons_self⟩

end UtilityCss.Content
