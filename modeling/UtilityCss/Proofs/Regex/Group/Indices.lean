import UtilityCss.Proofs.Regex.Group.Expr

/-!
How capture groups are numbered. Groups get their numbers from 1 on in the order in which they are
opened. What is built drops some groups and moves none, so the numbers that are left still ascend,
and there are no more of them than the largest one says.
-/
namespace UtilityCss.Regex

namespace Expr

/-- The numbers of the capture groups, from left to right. -/
def indices : Expr → List Nat
  | empty | set _ | look _ => []
  | capture index body => index :: body.indices
  | repetition _ _ _ body => body.indices
  | cat first second | alt first second => first.indices ++ second.indices

theorem length_indices (e : Expr) : e.indices.length = e.captureCount := by
  induction e with
  | capture index body ih => rw [indices, captureCount, List.length_cons, ih]
  | repetition min max lazy body ih => exact ih
  | cat first second ihFirst ihSecond | alt first second ihFirst ihSecond =>
    rw [indices, captureCount, List.length_append, ihFirst, ihSecond]
  | _ => rfl

theorem lastCapture_le_iff {e : Expr} {n : Nat} :
    e.lastCapture ≤ n ↔ ∀ i ∈ e.indices, i ≤ n := by
  induction e with
  | capture index body ih => rw [indices, lastCapture, Nat.max_le, ih, List.forall_mem_cons]
  | repetition min max lazy body ih => exact ih
  | cat first second ihFirst ihSecond | alt first second ihFirst ihSecond =>
    rw [indices, lastCapture, Nat.max_le, ihFirst, ihSecond, List.forall_mem_append]
  | _ => simp [indices, lastCapture]

theorem indices_joinFactors (es : List Expr) : (joinFactors es).indices = es.flatMap indices := by
  induction es with
  | nil => rfl
  | cons e rest ih =>
    cases rest with
    | nil => simp [joinFactors]
    | cons f rest =>
      rw [joinFactors_cons_cons, indices, ih]
      rfl

theorem indices_factors (e : Expr) : e.factors.flatMap indices = e.indices := by
  induction e with
  | cat first second ihFirst ihSecond =>
    rw [factors, List.flatMap_append, ihFirst, ihSecond, indices]
  | _ => simp [factors, indices]

theorem indices_sequence (es : List Expr) : (sequence es).indices = es.flatMap indices := by
  rw [sequence, indices_joinFactors, List.flatMap_assoc]
  simp only [indices_factors]

theorem indices_anchored (e : Expr) : e.anchored.indices = e.indices := by
  rw [anchored, indices_sequence]
  simp [indices]

theorem captureCount_anchored (e : Expr) : e.anchored.captureCount = e.captureCount := by
  rw [← length_indices, indices_anchored, length_indices]

theorem indices_joinBranches (es : List Expr) :
    (joinBranches es).indices = es.flatMap indices := by
  induction es with
  | nil => rfl
  | cons e rest ih =>
    cases rest with
    | nil => simp [joinBranches]
    | cons f rest =>
      rw [joinBranches_cons_cons, indices, ih]
      rfl

theorem indices_branches (e : Expr) : e.branches.flatMap indices = e.indices := by
  induction e with
  | alt first second ihFirst ihSecond =>
    rw [branches, List.flatMap_append, ihFirst, ihSecond, indices]
  | _ => simp [branches, indices]

theorem flatMap_branches (es : List Expr) :
    (es.flatMap branches).flatMap indices = es.flatMap indices := by
  rw [List.flatMap_assoc]
  simp only [indices_branches]

theorem indices_unite (branches : List Expr) :
    (unite branches).indices.Sublist (branches.flatMap indices) := by
  unfold unite
  split
  · split
    · exact List.nil_sublist _
    · rw [indices_joinBranches]
  · rw [indices_joinBranches]

theorem flatten_pieces (es : List Expr) : (pieces es).flatten = es := by
  induction es with
  | nil => rfl
  | cons e rest ih =>
    rw [pieces]
    split
    · next hnone =>
      rw [← ih, hnone]
      rfl
    · next piece more hpieces =>
      rw [hpieces] at ih
      split
      · rw [List.flatten_cons, List.cons_append, ← List.flatten_cons, ih]
      · rw [List.flatten_cons, ih]
        rfl

theorem prefix_commonPieces (as bs : List (List Expr)) : commonPieces as bs <+: as := by
  fun_induction commonPieces as bs with
  | case1 a as bs ih => exact List.cons_prefix_cons.2 ⟨rfl, ih⟩
  | case2 => exact List.nil_prefix
  | case3 => exact List.nil_prefix

theorem prefix_sharedFactors (e : Expr) (rest : List Expr) :
    sharedFactors (e :: rest) <+: e.factors := by
  have hfold : ∀ (bs : List Expr) (shared : List (List Expr)), shared <+: pieces e.factors →
      bs.foldl (fun shared b => commonPieces shared (pieces b.factors)) shared <+:
        pieces e.factors := by
    intro bs
    induction bs with
    | nil => exact fun _ h => h
    | cons b bs ih => exact fun shared h => ih _ ((prefix_commonPieces _ _).trans h)
  rw [sharedFactors]
  split
  · have hshared := (hfold rest _ (List.prefix_refl _)).flatten
    rwa [flatten_pieces e.factors] at hshared
  · exact List.nil_prefix

theorem indices_drop (n : Nat) (b : Expr) :
    (sequence (b.factors.drop n)).indices.Sublist b.indices := by
  rw [indices_sequence, ← indices_factors b]
  exact (List.drop_sublist n b.factors).flatMap indices

theorem indices_shared {shared : List Expr} {b : Expr} {rest : List Expr}
    (h : shared <+: b.factors) :
    (sequence (shared ++ [unite (((b :: rest).map fun e =>
      sequence (e.factors.drop shared.length)).flatMap branches)])).indices.Sublist
        ((b :: rest).flatMap indices) := by
  obtain ⟨own, hown⟩ := h
  have hfirst : shared.flatMap indices ++ own.flatMap indices = b.indices := by
    rw [← List.flatMap_append, hown, indices_factors]
  have hrests : ((b :: rest).map fun e => sequence (e.factors.drop shared.length)).flatMap indices =
      own.flatMap indices ++
        rest.flatMap fun e => (sequence (e.factors.drop shared.length)).indices := by
    rw [List.flatMap_map, List.flatMap_cons, ← hown, List.drop_left, indices_sequence]
  have hothers : (rest.flatMap fun e => (sequence (e.factors.drop shared.length)).indices).Sublist
      (rest.flatMap indices) :=
    List.Sublist.flatMap_right rest fun e _ => indices_drop shared.length e
  rw [indices_sequence, List.flatMap_append, List.flatMap_singleton, List.flatMap_cons, ← hfirst,
    List.append_assoc]
  refine ((indices_unite _).trans ?_).append_left _
  rw [flatMap_branches, hrests]
  exact hothers.append_left _

theorem indices_choice (es : List Expr) : (choice es).indices.Sublist (es.flatMap indices) := by
  rw [← flatMap_branches, choice]
  generalize es.flatMap branches = bs
  dsimp only
  split
  · next e => simp
  split
  · exact indices_unite bs
  · next _ hne =>
    cases bs with
    | nil => exact absurd rfl hne
    | cons b rest => exact indices_shared (prefix_sharedFactors b rest)

theorem IsLeaf.indices_eq {e : Expr} (h : e.IsLeaf) : e.indices = [] := by
  cases e with
  | empty | set | look => rfl
  | _ => exact h.elim

theorem indices_repeated (min : Nat) (max : Option Nat) (lazy : Bool) (body : Expr) :
    (repeated min max lazy body).indices.Sublist body.indices := by
  unfold repeated
  generalize (if body.isVoid then (Nat.min min 1, some (max.elim 1 (Nat.min 1))) else (min, max)) =
    bounds
  dsimp only
  split
  · exact List.nil_sublist _
  split
  · exact List.Sublist.refl _
  · exact List.Sublist.refl _

end Expr

namespace Part

theorem indices_sequence (parts : List Part) :
    (sequence parts).expr.indices = parts.flatMap fun p => p.expr.indices := by
  match parts with
  | [] => rfl
  | [p] => simp [sequence]
  | p :: q :: rest =>
    change (Expr.sequence _).indices = _
    rw [Expr.indices_sequence, List.flatMap_map]

theorem indices_choice (parts : List Part) :
    (choice parts).expr.indices.Sublist (parts.flatMap fun p => p.expr.indices) := by
  match parts with
  | [] => exact List.Sublist.refl _
  | [p] => simp [choice]
  | p :: q :: rest =>
    have hchoice := Expr.indices_choice ((p :: q :: rest).map Part.expr)
    rwa [List.flatMap_map] at hchoice

end Part

namespace Frame

/-- The number of the group itself, if it has one, and those inside. -/
def indices (f : Frame) : List Nat :=
  f.capture.toList ++ (f.branches.reverse ++ f.parts.reverse).flatMap fun p => p.expr.indices

theorem indices_push (f : Frame) (p : Part) : (f.push p).indices = f.indices ++ p.expr.indices := by
  simp [indices, push]

theorem indices_bar (f : Frame) : f.bar.indices = f.indices := by
  simp [indices, bar, Part.indices_sequence]

theorem indices_inside (f : Frame) : (f.capture.toList ++ f.inside.expr.indices).Sublist f.indices := by
  have hchoice := Part.indices_choice f.bar.branches.reverse
  have hbar : f.bar.indices =
      f.capture.toList ++ f.bar.branches.reverse.flatMap fun p => p.expr.indices := by
    simp [indices, bar]
  rw [← indices_bar, hbar]
  exact hchoice.append_left _

theorem indices_close (f : Frame) : f.close.expr.indices.Sublist f.indices := by
  have hclose : f.close.expr.indices = f.capture.toList ++ f.inside.expr.indices := by
    unfold close
    cases f.capture <;> rfl
  rw [hclose]
  exact indices_inside f

end Frame

theorem Frame.Grows.indices_sublist {f g : Frame} (h : f.Grows g) :
    g.indices.Sublist f.indices := by
  cases h with
  | push settings p hp =>
    change (f.push p).indices.Sublist f.indices
    rw [indices_push, hp.indices_eq, List.append_nil]
  | bar => rw [indices_bar]
  | repeated min max lazy height p rest hparts =>
    simp only [indices, hparts, List.reverse_cons, List.flatMap_append, List.flatMap_singleton]
    apply List.Sublist.append_left
    exact ((Expr.indices_repeated min max lazy p.expr).append_left _).append_left _

namespace Builder

/-- The numbers of all groups so far, those around first. -/
def indices (b : Builder) : List Nat := b.outer.reverse.flatMap Frame.indices ++ b.frame.indices

variable {b b' : Builder}

/-- A step gives the next number to the group that it opens, and moves no other. -/
theorem indices_step {t : Token} (h : b.step t = .ok b') :
    b'.captures = b.captures + t.opened ∧
      b'.indices.Sublist (b.indices ++ List.range' (b.captures + 1) t.opened) := by
  obtain ⟨f, -, hopened, rfl, hf⟩ | ⟨head, settings, capture, names, -, rfl, hcapture⟩ |
    ⟨f, rest, rfl, hrest, rfl⟩ := step_cases h
  · rw [hopened]
    refine ⟨rfl, ?_⟩
    rw [List.range'_zero, List.append_nil]
    exact hf.indices_sublist.append_left _
  · refine ⟨rfl, ?_⟩
    simp [indices, Frame.indices, hcapture]
  · refine ⟨rfl, ?_⟩
    simp only [indices, hrest, Frame.indices_push, Token.opened, List.range'_zero, List.append_nil,
      List.reverse_cons, List.flatMap_append, List.flatMap_singleton]
    rw [List.append_assoc]
    exact ((Frame.indices_close b.frame).append_left _).append_left _

def opened (tokens : List Token) : Nat := (tokens.map Token.opened).sum

theorem indices_run {tokens : List Token} (h : tokens.foldlM step b = .ok b') :
    b'.captures = b.captures + opened tokens ∧
      b'.indices.Sublist (b.indices ++ List.range' (b.captures + 1) (opened tokens)) := by
  induction tokens generalizing b with
  | nil =>
    obtain rfl := Except.ok.inj h
    simp [opened]
  | cons t rest ih =>
    rw [List.foldlM_cons] at h
    obtain ⟨c, hc, hrest⟩ := bind_eq_ok.1 h
    obtain ⟨hcaptures, hindices⟩ := indices_step hc
    obtain ⟨hcaptures', hindices'⟩ := ih hrest
    have hsum : opened (t :: rest) = t.opened + opened rest := by simp [opened]
    rw [hsum, ← List.range'_append_1, ← List.append_assoc]
    refine ⟨by omega, hindices'.trans ?_⟩
    rw [hcaptures, Nat.add_right_comm]
    exact hindices.append_right _

end Builder

namespace Expr

theorem indices_ofTokens {tokens : List Token} {e : Expr} (h : ofTokens tokens = .ok e) :
    e.indices.Sublist (List.range' 1 (Builder.opened tokens)) := by
  obtain ⟨b, hb, hfinish⟩ := bind_eq_ok.1 h
  have hrun := (Builder.indices_run hb).2
  unfold Builder.finish at hfinish
  split at hfinish
  · simp at hfinish
  split at hfinish
  · simp at hfinish
  · obtain rfl := Except.ok.inj hfinish
    have hinside := (List.sublist_append_right _ _).trans (Frame.indices_inside b.frame)
    exact hinside.trans ((List.sublist_append_right _ _).trans hrun)

theorem captureCount_le_lastCapture {e : Expr} {n : Nat} (h : e.indices.Sublist (List.range' 1 n)) :
    e.captureCount ≤ e.lastCapture ∧ e.lastCapture ≤ n := by
  have hmem : ∀ i ∈ e.indices, 1 ≤ i ∧ i ≤ n := by
    intro i hi
    have hrange := List.mem_range'_1.1 (h.subset hi)
    omega
  refine ⟨?_, lastCapture_le_iff.2 fun i hi => (hmem i hi).2⟩
  have hsubset : e.indices ⊆ List.range' 1 e.lastCapture := by
    intro i hi
    have hlow := (hmem i hi).1
    have hhigh := lastCapture_le_iff.1 (Nat.le_refl e.lastCapture) i hi
    rw [List.mem_range'_1]
    omega
  have hlength := (List.subperm_of_subset (h.nodup List.nodup_range') hsubset).length_le
  rwa [length_indices, List.length_range'] at hlength

end Expr

/-- A match has no fewer places than groups are counted, and no more than the text opens. -/
theorem groupCount_le_lastGroup {limit : Option Nat} {text : List Char} {r : Regex}
    (h : ofText limit text = .ok r) :
    r.groupCount ≤ r.lastGroup ∧
      ∃ tokens, Token.ofText text = .ok tokens ∧ r.lastGroup ≤ Builder.opened tokens := by
  obtain ⟨e, he, hr⟩ := bind_eq_ok.1 h
  obtain ⟨tokens, htokens, hbuild⟩ := bind_eq_ok.1 he
  obtain rfl := ofExpr_eq_ok hr
  obtain ⟨hcount, hlast⟩ := Expr.captureCount_le_lastCapture (Expr.indices_ofTokens hbuild)
  exact ⟨hcount, tokens, htokens, hlast⟩

end UtilityCss.Regex
