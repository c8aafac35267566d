import Mathlib
import UtilityCss.Proofs.Regex.Group.Tokens
import UtilityCss.Regex.Basic

/-!
The expression of a text inside a group is the expression of the text, between what stands in front
of the group and behind it. What limits expressions leaves less room inside.
-/
namespace UtilityCss.Regex

namespace Expr

theorem factors_of_mem_factors {e x : Expr} (h : x ∈ e.factors) : x.factors = [x] := by
  induction e with
  | empty => simp [factors] at h
  | cat first second ihFirst ihSecond =>
    rw [factors, List.mem_append] at h
    exact h.elim ihFirst ihSecond
  | _ =>
    obtain rfl := List.mem_singleton.1 h
    rfl

theorem factors_joinFactors {es : List Expr} (h : ∀ x ∈ es, x.factors = [x]) :
    (joinFactors es).factors = es := by
  induction es with
  | nil => rfl
  | cons e rest ih =>
    obtain ⟨he, hrest⟩ := List.forall_mem_cons.1 h
    cases rest with
    | nil => exact he
    | cons f rest => rw [joinFactors_cons_cons, factors, he, ih hrest, List.singleton_append]

def Tidy (e : Expr) : Prop := joinFactors e.factors = e

def IsLeaf : Expr → Prop
  | empty | set _ | look _ => True
  | _ => False

theorem IsLeaf.tidy {e : Expr} (h : e.IsLeaf) : e.Tidy := by
  cases e with
  | empty | set | look => rfl
  | _ => exact h.elim

theorem tidy_sequence (es : List Expr) : (sequence es).Tidy := by
  unfold Tidy sequence
  rw [factors_joinFactors]
  intro x hx
  obtain ⟨e, -, hx⟩ := List.mem_flatMap.1 hx
  exact factors_of_mem_factors hx

theorem branches_ne_nil (e : Expr) : e.branches ≠ [] := by
  induction e with
  | alt first second ihFirst ihSecond => simp [branches, ihFirst]
  | _ => simp [branches]

theorem tidy_unite {branches : List Expr} (h : 2 ≤ branches.length) : (unite branches).Tidy := by
  have hjoined : (joinBranches branches).Tidy :=
    match branches, h with
    | first :: second :: rest, _ => rfl
  unfold unite
  split
  · split
    · rfl
    · exact hjoined
  · exact hjoined

theorem length_flatMap_branches (es : List Expr) :
    es.length ≤ (es.flatMap branches).length := by
  induction es with
  | nil => rfl
  | cons e rest ih =>
    have hpos := List.length_pos_of_ne_nil e.branches_ne_nil
    rw [List.flatMap_cons, List.length_append, List.length_cons]
    omega

theorem tidy_choice {es : List Expr} (h : 2 ≤ es.length) : (choice es).Tidy := by
  have hlength := length_flatMap_branches es
  simp only [choice]
  split
  · next e heq =>
    rw [heq, List.length_singleton] at hlength
    omega
  · split
    · exact tidy_unite (Nat.le_trans h hlength)
    · exact tidy_sequence _

theorem tidy_repeated {min : Nat} {max : Option Nat} {lazy : Bool} {body : Expr}
    (h : body.Tidy) : (repeated min max lazy body).Tidy := by
  unfold repeated
  generalize (if body.isVoid then (Nat.min min 1, some (max.elim 1 (Nat.min 1))) else (min, max)) =
    bounds
  dsimp only
  split
  · rfl
  split
  · exact h
  · rfl

theorem size_joinFactors {backward : Bool} {es : List Expr} (h : es ≠ []) :
    (joinFactors es).size backward = (es.map (size backward)).sum := by
  induction es with
  | nil => exact absurd rfl h
  | cons e rest ih =>
    cases rest with
    | nil => simp [joinFactors]
    | cons f rest =>
      rw [List.map_cons, List.sum_cons, ← ih (List.cons_ne_nil f rest), joinFactors_cons_cons]
      rfl

/-- The expression between the two ends of the text. -/
def anchored (e : Expr) : Expr := sequence [look .textStart, e, look .textEnd]

theorem anchored_eq_joinFactors (e : Expr) :
    e.anchored = joinFactors (look .textStart :: (e.factors ++ [look .textEnd])) := by
  simp [anchored, sequence, factors]

theorem size_le_anchored {e : Expr} (h : e.Tidy) (backward : Bool) :
    e.size backward ≤ e.anchored.size backward := by
  rw [anchored_eq_joinFactors, size_joinFactors (List.cons_ne_nil _ _), List.map_cons,
    List.map_append, List.sum_cons, List.sum_append]
  by_cases hempty : e.factors = []
  · have he : e = empty := by
      rw [← h, hempty]
      rfl
    rw [he]
    simp [factors, size, sizeIn]
  · have hsize : (joinFactors e.factors).size backward = _ := size_joinFactors hempty
    rw [h] at hsize
    omega

end Expr

def Frame.Tidy (f : Frame) : Prop :=
  (∀ p ∈ f.branches, p.expr.Tidy) ∧ ∀ p ∈ f.parts, p.expr.Tidy

theorem tidy_sequencePart {parts : List Part} (h : ∀ p ∈ parts, p.expr.Tidy) :
    (Part.sequence parts).expr.Tidy := by
  match parts with
  | [] => rfl
  | [p] => exact h p (List.mem_singleton.2 rfl)
  | p :: q :: rest => exact Expr.tidy_sequence _

theorem tidy_choicePart {parts : List Part} (h : ∀ p ∈ parts, p.expr.Tidy) :
    (Part.choice parts).expr.Tidy := by
  match parts with
  | [] => rfl
  | [p] => exact h p (List.mem_singleton.2 rfl)
  | p :: q :: rest => exact Expr.tidy_choice (by simp)

namespace Frame.Tidy

variable {f : Frame}

theorem push (h : f.Tidy) {p : Part} (hp : p.expr.Tidy) : (f.push p).Tidy :=
  ⟨h.1, List.forall_mem_cons.2 ⟨hp, h.2⟩⟩

theorem bar (h : f.Tidy) : f.bar.Tidy := by
  have hparts : ∀ p ∈ f.parts.reverse, p.expr.Tidy := fun p hp => h.2 p (List.mem_reverse.1 hp)
  exact ⟨List.forall_mem_cons.2 ⟨tidy_sequencePart hparts, h.1⟩, by simp [Frame.bar]⟩

theorem inside (h : f.Tidy) : f.inside.expr.Tidy :=
  tidy_choicePart fun p hp => h.bar.1 p (List.mem_reverse.1 hp)

theorem close (h : f.Tidy) : f.close.expr.Tidy := by
  unfold Frame.close
  cases f.capture with
  | none => exact h.inside
  | some index => rfl

end Frame.Tidy

inductive Frame.Grows (f : Frame) : Frame → Prop where
  | push (settings : Settings) (p : Part) (hp : p.expr.IsLeaf) : f.Grows { f.push p with settings }
  | bar : f.Grows f.bar
  | repeated (min : Nat) (max : Option Nat) (lazy : Bool) (height : Nat) (p : Part)
      (rest : List Part) (h : f.parts = p :: rest) :
      f.Grows { f with parts := ⟨.repeated min max lazy p.expr, height, true⟩ :: rest }

namespace Frame.Grows

variable {f g : Frame}

theorem capture_eq (h : f.Grows g) : g.capture = f.capture := by
  cases h <;> rfl

theorem tidy (h : f.Grows g) (hf : f.Tidy) : g.Tidy := by
  cases h with
  | push settings p hp => exact hf.push hp.tidy
  | bar => exact hf.bar
  | repeated min max lazy height p rest hparts =>
    obtain ⟨hp, hrest⟩ := List.forall_mem_cons.1 (hparts ▸ hf.2)
    exact ⟨hf.1, List.forall_mem_cons.2 ⟨Expr.tidy_repeated hp, hrest⟩⟩

end Frame.Grows

def Token.opened : Token → Nat
  | .opening (.capture _) => 1
  | _ => 0

namespace Builder

/-- What is put together is tidy, and the whole is no capture group. -/
structure Sound (b : Builder) : Prop where
  tidy : ∀ f ∈ b.frame :: b.outer, f.Tidy
  whole : ∀ f, (b.frame :: b.outer).getLast? = some f → f.capture = none

variable {b : Builder}

theorem sound_start : Sound {} where
  tidy := by simp [Frame.Tidy]
  whole := by simp

theorem Sound.modify (h : b.Sound) {f : Frame} (hf : f.Tidy) (hcapture : f.capture = b.frame.capture) :
    Sound { b with frame := f } where
  tidy := List.forall_mem_cons.2 ⟨hf, (List.forall_mem_cons.1 h.tidy).2⟩
  whole := by
    obtain ⟨frame, outer, captures, names⟩ := b
    cases outer with
    | nil =>
      intro g hg
      obtain rfl : f = g := by simpa using hg
      exact hcapture.trans (h.whole frame (by simp))
    | cons g rest => exact fun g' hg' => h.whole g' (by simpa using hg')

theorem Sound.openGroup (h : b.Sound) {f : Frame} (hf : f.Tidy) {captures : Nat}
    {names : List (List Char)} : Sound ⟨f, b.frame :: b.outer, captures, names⟩ where
  tidy := List.forall_mem_cons.2 ⟨hf, h.tidy⟩
  whole := fun g hg => h.whole g (by simpa using hg)

theorem isLeaf_atom {s : Settings} {a : Atom} {e : Expr} (h : a.expr s = .ok e) : e.IsLeaf := by
  have hset : ∀ x : Except Error Unicode.CharSet, Expr.set <$> x = .ok e → e.IsLeaf := by
    intro x hx
    cases x with
    | error cause => simp [Functor.map, Except.map] at hx
    | ok set =>
      obtain rfl := Except.ok.inj hx
      trivial
  have hlook : ∀ l, Except.ok (Expr.look l) = Except.ok (ε := Error) e → e.IsLeaf := by
    intro l hl
    obtain rfl := Except.ok.inj hl
    trivial
  unfold Atom.expr at h
  split at h
  case h_2 =>
    split at h
    · obtain rfl := Except.ok.inj h
      trivial
    · simp at h
  case h_1 | h_8 | h_9 | h_10 => exact hset _ h
  all_goals exact hlook _ h

/-- A step changes the innermost group, or begins one inside it, with the next number if it is a
capture group, or ends it. -/
theorem step_cases {t : Token} {b' : Builder} (h : b.step t = .ok b') :
    (∃ f : Frame, (∀ depth, t.nest depth = depth) ∧ t.opened = 0 ∧ b' = { b with frame := f } ∧
      b.frame.Grows f) ∨
    (∃ head settings capture names, t = .opening head ∧
      b' = ⟨{ settings, capture }, b.frame :: b.outer, b.captures + t.opened, names⟩ ∧
      capture.toList = List.range' (b.captures + 1) t.opened) ∨
    ∃ f rest, t = .closing ∧ b.outer = f :: rest ∧
      b' = { b with frame := f.push b.frame.close, outer := rest } := by
  cases t with
  | atom a =>
    obtain ⟨e, he, hb⟩ := bind_eq_ok.1 h
    obtain rfl := Except.ok.inj hb
    exact .inl ⟨_, fun _ => rfl, rfl, rfl, .push b.frame.settings _ (isLeaf_atom he)⟩
  | flags change =>
    obtain rfl := Except.ok.inj h
    exact .inl ⟨_, fun _ => rfl, rfl, rfl, .push _ ⟨.empty, 0, false⟩ trivial⟩
  | opening head =>
    cases head with
    | «scoped» change =>
      obtain rfl := Except.ok.inj h
      exact .inr (.inl ⟨_, _, none, _, rfl, rfl, rfl⟩)
    | capture name =>
      simp only [step, openGroup] at h
      split at h
      · simp at h
      · obtain rfl := Except.ok.inj h
        exact .inr (.inl ⟨_, _, some (b.captures + 1), _, rfl, rfl, rfl⟩)
  | closing =>
    obtain ⟨frame, outer, captures, names⟩ := b
    cases outer with
    | nil => simp [step, closeGroup] at h
    | cons f rest =>
      obtain rfl := Except.ok.inj h
      exact .inr (.inr ⟨f, rest, rfl, rfl, rfl⟩)
  | bar =>
    obtain rfl := Except.ok.inj h
    exact .inl ⟨_, fun _ => rfl, rfl, rfl, .bar⟩
  | repetition min max lazy =>
    simp only [step, repeatLast] at h
    split at h
    · simp at h
    · next p parts hparts =>
      split at h
      · simp at h
      · obtain rfl := Except.ok.inj h
        exact .inl ⟨_, fun _ => rfl, rfl, rfl, .repeated min max _ _ p parts hparts⟩

theorem sound_step {b' : Builder} (h : b.Sound) {t : Token} (hstep : b.step t = .ok b') :
    b'.Sound := by
  obtain ⟨hframe, houter⟩ := List.forall_mem_cons.1 h.tidy
  obtain ⟨f, -, -, rfl, hf⟩ | ⟨head, settings, capture, names, -, rfl, -⟩ |
    ⟨f, rest, -, hrest, rfl⟩ := step_cases hstep
  · exact h.modify (hf.tidy hframe) hf.capture_eq
  · exact h.openGroup (by simp [Frame.Tidy])
  · rw [hrest] at houter
    have hleft : Sound ⟨f, rest, b.captures, b.names⟩ :=
      ⟨houter, fun g hg => h.whole g (by simpa [hrest] using hg)⟩
    exact hleft.modify ((houter f List.mem_cons_self).push hframe.close) rfl

theorem sound_run {tokens : List Token} {b' : Builder} (h : b.Sound)
    (hrun : tokens.foldlM step b = .ok b') : b'.Sound := by
  induction tokens generalizing b with
  | nil =>
    obtain rfl := Except.ok.inj hrun
    exact h
  | cons t rest ih =>
    rw [List.foldlM_cons] at hrun
    obtain ⟨c, hc, hrest⟩ := bind_eq_ok.1 hrun
    exact ih (sound_step h hc) hrest

def within (outer : List Frame) (b : Builder) : Builder := { b with outer := b.outer ++ outer }

variable {outer : List Frame}

/-- Only the end of a group tells whether there is another one around. -/
theorem step_within {t : Token} (h : t = .closing → b.outer ≠ []) :
    (b.within outer).step t = (b.step t).map (within outer) := by
  obtain ⟨frame, own, captures, names⟩ := b
  cases t with
  | atom a =>
    change (a.expr frame.settings >>= fun e => _) = Except.map _ (a.expr frame.settings >>= fun e => _)
    cases a.expr frame.settings <;> rfl
  | flags change => rfl
  | opening head =>
    cases head with
    | «scoped» change => rfl
    | capture name =>
      by_cases hname : name.any names.contains
      · simp [step, openGroup, within, hname, Except.map]
      · simp [step, openGroup, within, hname, Except.map]
  | closing =>
    obtain ⟨f, rest, rfl⟩ := List.exists_cons_of_ne_nil (h rfl)
    rfl
  | bar => rfl
  | repetition min max lazy =>
    simp only [step, repeatLast, within]
    split
    · rfl
    · split <;> rfl

theorem nest_step {t : Token} {b' : Builder} (h : b.step t = .ok b') :
    t.nest (some b.outer.length) = some b'.outer.length := by
  obtain ⟨f, hnest, -, rfl, -⟩ | ⟨head, settings, capture, names, rfl, rfl, -⟩ |
    ⟨f, rest, rfl, hrest, rfl⟩ := step_cases h
  · exact hnest _
  · rfl
  · rw [hrest]
    rfl

theorem nest_run {tokens : List Token} {b' : Builder} (h : tokens.foldlM step b = .ok b') :
    tokens.foldl (fun depth t => t.nest depth) (some b.outer.length) = some b'.outer.length := by
  induction tokens generalizing b with
  | nil =>
    obtain rfl := Except.ok.inj h
    rfl
  | cons t rest ih =>
    rw [List.foldlM_cons] at h
    obtain ⟨c, hc, hrest⟩ := bind_eq_ok.1 h
    rw [List.foldl_cons, nest_step hc]
    exact ih hrest

theorem depth_of_run {tokens : List Token} {b' : Builder}
    (h : tokens.foldlM step {} = .ok b') : depth? tokens.reverse = some b'.outer.length := by
  unfold depth?
  rw [List.foldr_reverse]
  exact nest_run h

theorem foldl_nest_none (tokens : List Token) :
    tokens.foldl (fun depth t => t.nest depth) none = none := by
  induction tokens with
  | nil => rfl
  | cons t rest ih =>
    have hnone : t.nest none = none := by cases t <;> rfl
    rw [List.foldl_cons, hnone, ih]

theorem run_within {tokens : List Token}
    (h : tokens.foldl (fun depth t => t.nest depth) (some b.outer.length) ≠ none) :
    tokens.foldlM step (b.within outer) = (tokens.foldlM step b).map (within outer) := by
  induction tokens generalizing b with
  | nil => rfl
  | cons t rest ih =>
    have hopen : t = .closing → b.outer ≠ [] := by
      rintro rfl hempty
      apply h
      rw [hempty]
      exact foldl_nest_none rest
    simp only [List.foldlM_cons]
    rw [step_within hopen]
    cases hc : b.step t with
    | error e => rfl
    | ok c =>
      rw [List.foldl_cons, nest_step hc] at h
      exact ih h

theorem depth_of_ofTokens {tokens : List Token} {e : Expr} (h : Expr.ofTokens tokens = .ok e) :
    depth? tokens.reverse = some 0 := by
  obtain ⟨b, hb, hfinish⟩ := bind_eq_ok.1 h
  rw [depth_of_run hb]
  unfold finish at hfinish
  split at hfinish
  · simp at hfinish
  · next houter =>
    have hempty : b.outer = [] := by simpa using houter
    rw [hempty]
    rfl

def around : Frame := { parts := [⟨.look .textStart, 0, true⟩] }

theorem run_opening :
    [Token.atom .lineStart, .opening (.scoped [])].foldlM step {} = .ok (within [around] {}) := rfl

theorem run_closing (h : b.outer = []) :
    [Token.closing, .atom .lineEnd].foldlM step (b.within [around]) =
      .ok { b with frame := (around.push b.frame.close).push ⟨.look .textEnd, 0, true⟩ } := by
  obtain ⟨frame, own, captures, names⟩ := b
  obtain rfl : own = [] := h
  rfl

theorem inside_around (p : Part) :
    ((around.push p).push ⟨.look .textEnd, 0, true⟩).inside =
      ⟨.anchored p.expr, p.height + 1, true⟩ := by
  have hlevel : Part.level [⟨.look .textStart, 0, true⟩, p, ⟨.look .textEnd, 0, true⟩] =
      p.height + 1 := by
    simp [Part.level]
  rw [← hlevel]
  rfl

theorem ofTokens_group {own : List Token} {whole : Expr} (hdepth : depth? own.reverse = some 0)
    (h : Expr.ofTokens
      ([.atom .lineStart, .opening (.scoped [])] ++ (own ++ [.closing, .atom .lineEnd])) =
        .ok whole) :
    ∃ e, Expr.ofTokens own = .ok e ∧ e.Tidy ∧ whole = e.anchored := by
  have hbalanced : own.foldl (fun depth t => t.nest depth) (some 0) = some 0 := by
    unfold depth? at hdepth
    rwa [List.foldr_reverse] at hdepth
  have hinside : own.foldlM step (within [around] {}) = (own.foldlM step {}).map (within [around]) := by
    apply run_within
    change own.foldl _ (some 0) ≠ none
    rw [hbalanced]
    simp
  obtain ⟨last, hlast, hfinish⟩ := bind_eq_ok.1 h
  rw [foldlM_append_of_ok run_opening, List.foldlM_append, hinside] at hlast
  cases hown : own.foldlM step {} with
  | error e =>
    rw [hown] at hlast
    cases hlast
  | ok b =>
    have houter : b.outer = [] := by
      have hlength := depth_of_run hown
      rw [hdepth] at hlength
      exact List.length_eq_zero_iff.1 (Option.some.inj hlength).symm
    rw [hown] at hlast
    change [Token.closing, .atom .lineEnd].foldlM step (b.within [around]) = _ at hlast
    rw [run_closing houter] at hlast
    obtain rfl := Except.ok.inj hlast
    have hsound := sound_run sound_start hown
    -- The whole is no capture group, so closing it only adds to its height.
    have hcapture : b.frame.capture = none := hsound.whole b.frame (by simp [houter])
    have hclose : b.frame.close = ⟨b.frame.inside.expr, b.frame.inside.height + 1, true⟩ := by
      unfold Frame.close
      rw [hcapture]
    simp only [finish, houter, inside_around, hclose] at hfinish
    split at hfinish
    · simp at hfinish
    split at hfinish
    · simp at hfinish
    · next hheight =>
      refine ⟨b.frame.inside.expr, ?_, (hsound.tidy _ List.mem_cons_self).inside,
        (Except.ok.inj hfinish).symm⟩
      unfold Expr.ofTokens
      rw [hown]
      change b.finish = _
      have hlow : ¬ b.frame.inside.height > heightLimit := by omega
      simp [finish, houter, hlow]

end Builder

/-- An expression is read from a text held to its two ends in a group just where the text by itself
gives one, unless the text closes the group. -/
theorem Expr.ofText_group {text : List Char} {whole : Expr} (hnever : ¬ Overcloses text)
    (h : Expr.ofText ("^(?:".toList ++ (text ++ ")$".toList)) = .ok whole) :
    ∃ e, Expr.ofText text = .ok e ∧ e.Tidy ∧ whole = e.anchored := by
  obtain ⟨read, hread, hbuild⟩ := bind_eq_ok.1 h
  have hdepth := Builder.depth_of_ofTokens hbuild
  obtain ⟨own, hown, hbalanced, rfl⟩ := tokens_of_group hnever hread hdepth
  rw [List.append_assoc] at hbuild
  obtain ⟨e, he, htidy, hwhole⟩ := Builder.ofTokens_group hbalanced hbuild
  refine ⟨e, ?_, htidy, hwhole⟩
  rw [Expr.ofText, hown]
  exact he

theorem Expr.ofText_ne_ok {text : List Char} (h : Overcloses text) (e : Expr) :
    Expr.ofText text ≠ .ok e := by
  intro hok
  obtain ⟨read, hread, hbuild⟩ := bind_eq_ok.1 hok
  have hdepth := depth_of_overcloses h hread
  rw [Builder.depth_of_ofTokens hbuild] at hdepth
  simp at hdepth

theorem ofExpr_eq_ok {limit : Option Nat} {e : Expr} {r : Regex} (h : ofExpr limit e = .ok r) :
    r = ⟨e.captureCount, e.lastCapture, e.program⟩ := by
  unfold ofExpr at h
  split at h
  · simp at h
  · exact (Except.ok.inj h).symm

end UtilityCss.Regex
