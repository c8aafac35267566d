import UtilityCss.Proofs.Regex.Group.Follows

/-!
Texts inside a group. A text that does not overclose is read there as it is read outside, and its
tokens stand between those of the group; one that does is not made up for by what follows.
-/
namespace UtilityCss.Regex

namespace Reader

variable {saved : List Bool} {tokens : List Token} {lost : Bool} {r : Reader}

theorem step_close {q : Reader} (hsettled : r.settled = some q) (hcomment : r.comment = false) :
    r.step ')' = .ok q.closeGroup := by
  obtain ⟨mode, comment, extended, own, classes, read⟩ := r
  obtain rfl : comment = false := hcomment
  have hplain : ∀ r : Reader, r.plainStep ')' = r.visibleStep ')' := fun r =>
    plainStep_eq_visibleStep r (by decide) (by decide)
  cases mode with
  | sequence | repetition | counted | boundary =>
    obtain rfl := Option.some.inj hsettled
    simp [step, hplain, visibleStep, sequenceStep, emit, emitAtom]
  | _ => simp [settled] at hsettled

theorem settled_keeps {q : Reader} (h : r.settled = some q) :
    q.comment = r.comment ∧ depth? q.tokens = depth? r.tokens := by
  obtain ⟨mode, comment, extended, own, classes, read⟩ := r
  cases mode with
  | sequence | repetition | counted | boundary =>
    obtain rfl := Option.some.inj h
    exact ⟨rfl, rfl⟩
  | _ => simp [settled] at h

theorem settled_within (r : Reader) :
    (r.within saved tokens).settled = r.settled.map (within saved tokens) := by
  obtain ⟨mode, comment, extended, own, classes, read⟩ := r
  cases mode <;> rfl

/-- A step that a group around would notice closes more groups than have been opened. -/
theorem step_cases (h : r.Tracked lost) (c : Char) :
    (∀ saved tokens, (lost = true → saved = []) →
      Follows saved tokens lost (r.step c) ((r.within saved tokens).step c)) ∨
    ∃ q, c = ')' ∧ r.settled = some q ∧ r.comment = false ∧ r.saved = [] ∧
      r.step c = .ok q.closeGroup ∧ q.closeGroup.Tracked true := by
  -- Readers inside and outside part at a parenthesis for which only the group around is open.
  by_cases hopen : c = ')' ∧ r.comment = false ∧ r.settled.isSome ∧ r.saved = [] ∧ lost = false
  · right
    obtain ⟨rfl, hcomment, hsettled, hempty, rfl⟩ := hopen
    obtain ⟨q, hq⟩ := Option.isSome_iff_exists.1 hsettled
    refine ⟨q, rfl, hq, hcomment, hempty, step_close hq hcomment, ?_, rfl⟩
    have hdepth : depth? q.tokens = some 0 := by
      rw [(settled_keeps hq).2, h.depth, hempty]
      rfl
    have hclosed : depth? q.closeGroup.tokens = (depth? q.tokens).bind Nat.ppred := rfl
    rw [hclosed, hdepth]
    rfl
  · left
    intro saved tokens hsaved
    apply follows_step h
    intro hc hcomment hsettled
    by_cases hempty : r.saved = []
    · cases lost with
      | false => exact absurd ⟨hc, hcomment, hsettled, hempty, rfl⟩ hopen
      | true => exact .inr ⟨rfl, hsaved rfl⟩
    · exact .inl hempty

theorem tracked_read {text : List Char} {q : Reader} (h : r.Tracked lost)
    (hread : text.foldlM step r = .ok q) :
    ∃ lost', q.Tracked lost' ∧ (lost = true → lost' = true) := by
  induction text generalizing r lost with
  | nil =>
    obtain rfl := Except.ok.inj hread
    exact ⟨lost, h, id⟩
  | cons c rest ih =>
    rw [List.foldlM_cons] at hread
    obtain ⟨p, hp, hrest⟩ := bind_eq_ok.1 hread
    rcases step_cases h c with hfollows | ⟨q, -, -, -, -, hclose, htracked⟩
    · exact ih ((hfollows [] [] fun _ => rfl).2 p hp) hrest
    · obtain rfl := Except.ok.inj (hclose.symm.trans hp)
      obtain ⟨lost', hq, hover⟩ := ih htracked hrest
      exact ⟨lost', hq, fun _ => hover rfl⟩

theorem follows_read {text : List Char} (h : r.Tracked false)
    (hnever : ∀ front, front <+: text → ∀ q, front.foldlM step r = .ok q →
      depth? q.tokens ≠ none) :
    Follows saved tokens false (text.foldlM step r) (text.foldlM step (r.within saved tokens)) := by
  induction text generalizing r with
  | nil => exact .ok h
  | cons c rest ih =>
    simp only [List.foldlM_cons]
    rcases step_cases h c with hfollows | ⟨q, -, -, -, -, hclose, htracked⟩
    · apply (hfollows saved tokens (by simp)).bind
      intro q hq hqtracked
      apply ih hqtracked
      intro front hfront p hp
      apply hnever (c :: front) (List.cons_prefix_cons.2 ⟨rfl, hfront⟩)
      rw [List.foldlM_cons, hq]
      exact hp
    · exact absurd htracked.depth (hnever [c] (by simp) q.closeGroup (by simpa using hclose))

theorem tracked_start : Tracked false {} := ⟨rfl, rfl⟩

theorem depth_of_finish {read : List Token} (hread : r.finish = .ok read) :
    depth? read.reverse = depth? r.tokens := by
  rw [finish_eq_settled] at hread
  cases hsettled : r.settled with
  | none => simp [hsettled] at hread
  | some q =>
    rw [hsettled] at hread
    obtain rfl := Except.ok.inj hread
    rw [List.reverse_reverse, (settled_keeps hsettled).2]

def groupTokens : List Token := [.opening (.scoped []), .atom .lineStart]

theorem read_opening : "^(?:".toList.foldlM step {} = .ok (within [false] groupTokens {}) := rfl

theorem depth_within (h : r.Tracked false) :
    depth? (r.within [false] groupTokens).tokens = some (r.saved.length + 1) :=
  depth_append h.depth rfl

theorem finish_closing {q : Reader} (hsettled : r.settled = some q) (hcomment : r.comment = false) :
    (")$".toList.foldlM step r >>= finish) =
      .ok (.atom .lineEnd :: .closing :: q.tokens).reverse := by
  have hopen : q.closeGroup.comment = false := (settled_keeps hsettled).1.trans hcomment
  have hend : q.closeGroup.step '$' = .ok (q.closeGroup.emitAtom .lineEnd) := by
    unfold step
    rw [hopen]
    exact plainStep_eq_visibleStep q.closeGroup (by decide) (by decide)
  have htail : ")$".toList = [')', '$'] := rfl
  simp only [htail, List.foldlM_cons, List.foldlM_nil, step_close hsettled hcomment]
  change (q.closeGroup.step '$' >>= pure) >>= finish = _
  rw [hend]
  rfl

end Reader

theorem depth_of_overcloses {text : List Char} {read : List Token} (h : Overcloses text)
    (hread : Token.ofText text = .ok read) : depth? read.reverse = none := by
  obtain ⟨front, ⟨back, rfl⟩, r, hfront, hdepth⟩ := h
  rw [Token.ofText, Reader.foldlM_step_append, hfront] at hread
  obtain ⟨q, hq, hfinish⟩ := bind_eq_ok.1 hread
  obtain ⟨lost, hr, -⟩ := Reader.tracked_read Reader.tracked_start hfront
  have hover : lost = true := by
    cases lost with
    | true => rfl
    | false => simp [hr.depth] at hdepth
  obtain ⟨lost', hq, hover'⟩ := Reader.tracked_read hr hq
  rw [Reader.depth_of_finish hfinish, hq.depth, hover' hover]
  rfl

/-- Held to its two ends in a group, a text gives its own tokens between those of the group. -/
theorem tokens_of_group {text : List Char} {read : List Token} (hnever : ¬ Overcloses text)
    (hread : Token.ofText ("^(?:".toList ++ (text ++ ")$".toList)) = .ok read)
    (hdepth : depth? read.reverse = some 0) :
    ∃ own, Token.ofText text = .ok own ∧ depth? own.reverse = some 0 ∧
      read = [.atom .lineStart, .opening (.scoped [])] ++ own ++ [.closing, .atom .lineEnd] := by
  have hfollows : Reader.Follows [false] Reader.groupTokens false (text.foldlM Reader.step {})
      (text.foldlM Reader.step (Reader.within [false] Reader.groupTokens {})) := by
    apply Reader.follows_read Reader.tracked_start
    intro front hfront q hq hnone
    exact hnever ⟨front, hfront, q, hq, hnone⟩
  rw [Token.ofText, foldlM_append_of_ok Reader.read_opening, Reader.foldlM_step_append, bind_assoc]
    at hread
  obtain ⟨inside, hinside, hread⟩ := bind_eq_ok.1 hread
  obtain ⟨q, hq, rfl, htracked⟩ := hfollows.exists_outside hinside
  rcases Reader.step_cases htracked ')' with hclose | ⟨p, -, hp, hcomment, hempty, -, -⟩
  · -- Where no group is closed that is not open, the group around stays open to the end.
    have hend : Reader.Follows [false] Reader.groupTokens false
        (")$".toList.foldlM Reader.step q)
        (")$".toList.foldlM Reader.step (q.within [false] Reader.groupTokens)) := by
      apply (hclose [false] Reader.groupTokens (by simp)).bind
      intro p hp hptracked
      exact (Reader.follows_step hptracked '$' (by simp)).bind fun p' _ h => .ok h
    obtain ⟨last, hlast, hfinish⟩ := bind_eq_ok.1 hread
    obtain ⟨p, -, rfl, hptracked⟩ := hend.exists_outside hlast
    have hopen := Reader.depth_of_finish hfinish
    rw [hdepth, Reader.depth_within hptracked] at hopen
    simp at hopen
  · have hsettled : (q.within [false] Reader.groupTokens).settled =
        some (p.within [false] Reader.groupTokens) := by
      rw [Reader.settled_within, hp]
      rfl
    rw [Reader.finish_closing hsettled hcomment] at hread
    obtain rfl := Except.ok.inj hread
    have hown : Token.ofText text = .ok p.tokens.reverse := by
      rw [Token.ofText, hq]
      change q.finish = _
      rw [Reader.finish_eq_settled, hp]
    refine ⟨p.tokens.reverse, hown, ?_, ?_⟩
    · rw [List.reverse_reverse, (Reader.settled_keeps hp).2, htracked.depth, hempty]
      rfl
    · simp [Reader.within, Reader.groupTokens]

end UtilityCss.Regex
