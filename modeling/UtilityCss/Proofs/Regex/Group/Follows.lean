import UtilityCss.Proofs.Regex.Group.Depth

/-!
Steps inside a group. Until a group is closed that the text has not opened, each step leads to the
state that it leads to outside, with what belongs to the group around kept behind its own.
-/
namespace UtilityCss.Regex

namespace Reader

def nameChars : List Char := ":^abcdefghijklmnopqrstuvwxyz".toList

def isNamed : Mode → Bool
  | .className chars => chars.all nameChars.contains
  | _ => true

/-- The reader knows how many groups are open, unless too many have been closed. -/
structure Tracked (lost : Bool) (r : Reader) : Prop where
  depth : depth? r.tokens = if lost then none else some r.saved.length
  named : isNamed r.mode

def within (saved : List Bool) (tokens : List Token) (r : Reader) : Reader :=
  { r with saved := r.saved ++ saved, tokens := r.tokens ++ tokens }

/-- What is read inside is what is read outside, in a state that keeps track. -/
def Follows (saved : List Bool) (tokens : List Token) (lost : Bool)
    (outside inside : Except Error Reader) : Prop :=
  inside = outside.map (within saved tokens) ∧ ∀ r, outside = .ok r → r.Tracked lost

variable {saved : List Bool} {tokens : List Token} {lost : Bool} {r : Reader}

theorem Follows.ok (h : r.Tracked lost) :
    Follows saved tokens lost (.ok r) (.ok (r.within saved tokens)) :=
  ⟨rfl, by rintro _ ⟨rfl⟩; exact h⟩

theorem Follows.error {e : Error} : Follows saved tokens lost (.error e) (.error e) :=
  ⟨rfl, by rintro _ ⟨⟩⟩

theorem Follows.exists_outside {x y : Except Error Reader} {q : Reader}
    (h : Follows saved tokens lost x y) (hy : y = .ok q) :
    ∃ p, x = .ok p ∧ q = p.within saved tokens ∧ p.Tracked lost := by
  obtain ⟨rfl, htracked⟩ := h
  cases x with
  | error e => exact absurd hy (by rintro ⟨⟩)
  | ok p => exact ⟨p, rfl, (Except.ok.inj hy).symm, htracked p rfl⟩

theorem Tracked.openGroup (h : r.Tracked lost) (head : Opening) : (r.openGroup head).Tracked lost where
  depth := by
    have hdepth : depth? (r.openGroup head).tokens = (depth? r.tokens).map (· + 1) := rfl
    rw [hdepth, h.depth]
    cases lost <;> rfl
  named := rfl

theorem follows_groupNameStep (h : r.Tracked lost) (chars : List Char) (c : Char) :
    Follows saved tokens lost (r.groupNameStep chars c)
      ((r.within saved tokens).groupNameStep chars c) := by
  unfold groupNameStep
  split
  · split
    · exact .error
    · exact .ok (h.openGroup _)
  · split <;> split
    · exact .ok ⟨h.depth, rfl⟩
    · exact .error
    · exact .ok ⟨h.depth, rfl⟩
    · exact .error

theorem follows_flagsStep (h : r.Tracked lost) (items : FlagChange) (value dangling : Bool)
    (c : Char) :
    Follows saved tokens lost (r.flagsStep items value dangling c)
      ((r.within saved tokens).flagsStep items value dangling c) := by
  unfold flagsStep
  split
  · split
    · exact .error
    · exact .ok ⟨h.depth, rfl⟩
  split
  · split
    · exact .error
    · exact .ok (h.openGroup _)
  split
  · split
    · exact .ok ⟨h.depth, rfl⟩
    · exact .error
  split
  · exact .error
  · split
    · exact .error
    · exact .ok ⟨h.depth, rfl⟩

theorem follows_openedQuestionStep (h : r.Tracked lost) (c : Char) :
    Follows saved tokens lost (r.openedQuestionStep c)
      ((r.within saved tokens).openedQuestionStep c) := by
  unfold openedQuestionStep
  split
  · exact .ok ⟨h.depth, rfl⟩
  split
  · exact .ok ⟨h.depth, rfl⟩
  · exact follows_flagsStep h [] true false c

theorem Tracked.addItem (h : r.Tracked lost) (item : ClassSet) : (r.addItem item).Tracked lost :=
  ⟨h.depth, rfl⟩

theorem follows_closeClass (h : r.Tracked lost) :
    Follows saved tokens lost (.ok r.closeClass) (.ok (r.within saved tokens).closeClass) := by
  obtain ⟨mode, comment, extended, own, classes, read⟩ := r
  match classes with
  | [] => exact .ok ⟨h.depth, rfl⟩
  | [f] => exact .ok ⟨h.depth, rfl⟩
  | f :: g :: rest => exact .ok ⟨h.depth, rfl⟩

theorem follows_deliverLiteral (h : r.Tracked lost) (place : Place) (l : Literal) :
    Follows saved tokens lost (r.deliverLiteral place l)
      ((r.within saved tokens).deliverLiteral place l) := by
  cases place with
  | sequence => exact .ok ⟨h.depth, rfl⟩
  | classItem => exact .ok ⟨h.depth, rfl⟩
  | rangeEnd low =>
    simp only [deliverLiteral]
    split
    · exact .ok ⟨h.depth, rfl⟩
    · exact .error

theorem follows_deliverShort (h : r.Tracked lost) (place : Place) (kind : ShortClass)
    (negated : Bool) :
    Follows saved tokens lost (r.deliverShort place kind negated)
      ((r.within saved tokens).deliverShort place kind negated) := by
  cases place with
  | sequence => exact .ok ⟨h.depth, rfl⟩
  | classItem => exact .ok ⟨h.depth, rfl⟩
  | rangeEnd low => exact .error

theorem follows_deliverProperty (h : r.Tracked lost) (place : Place) (query : PropertyQuery)
    (negated : Bool) :
    Follows saved tokens lost (r.deliverProperty place query negated)
      ((r.within saved tokens).deliverProperty place query negated) := by
  cases place with
  | sequence => exact .ok ⟨h.depth, rfl⟩
  | classItem => exact .ok ⟨h.depth, rfl⟩
  | rangeEnd low => exact .error

theorem follows_deliverAssertion (h : r.Tracked lost) (place : Place) (a : Assertion) :
    Follows saved tokens lost (r.deliverAssertion place a)
      ((r.within saved tokens).deliverAssertion place a) := by
  cases place with
  | sequence => exact .ok ⟨h.depth, rfl⟩
  | classItem => exact .error
  | rangeEnd low => exact .error

theorem follows_escapeStep (h : r.Tracked lost) (place : Place) (c : Char) :
    Follows saved tokens lost (r.escapeStep place c)
      ((r.within saved tokens).escapeStep place c) := by
  unfold escapeStep
  split
  case h_1 | h_2 | h_3 | h_4 | h_5 => exact .ok ⟨h.depth, rfl⟩
  case h_6 | h_7 | h_8 | h_9 | h_10 | h_11 => exact follows_deliverShort h place _ _
  case h_12 | h_13 | h_14 | h_15 | h_16 | h_17 => exact follows_deliverLiteral h place _
  case h_18 | h_19 | h_20 | h_21 | h_22 => exact follows_deliverAssertion h place _
  · cases place with
    | sequence => exact .ok ⟨h.depth, rfl⟩
    | classItem => exact .error
    | rangeEnd low => exact .error
  · split
    · exact follows_deliverLiteral h place _
    · exact .error

theorem follows_deliverCode (h : r.Tracked lost) (place : Place) (byte : Bool) (n : Nat) :
    Follows saved tokens lost (r.deliverCode place byte n)
      ((r.within saved tokens).deliverCode place byte n) := by
  unfold deliverCode
  split
  · exact follows_deliverLiteral h place _
  · exact .error

theorem follows_hexDigitsStep (h : r.Tracked lost) (place : Place) (width : Nat)
    (digits : List Char) (c : Char) :
    Follows saved tokens lost (r.hexDigitsStep place width digits c)
      ((r.within saved tokens).hexDigitsStep place width digits c) := by
  simp only [hexDigitsStep]
  split
  · exact .error
  split
  · exact .ok ⟨h.depth, rfl⟩
  · exact follows_deliverCode h place _ _

theorem follows_hexStartStep (h : r.Tracked lost) (place : Place) (width : Nat) (c : Char) :
    Follows saved tokens lost (r.hexStartStep place width c)
      ((r.within saved tokens).hexStartStep place width c) := by
  unfold hexStartStep
  split
  · exact .ok ⟨h.depth, rfl⟩
  · exact follows_hexDigitsStep h place width [] c

theorem follows_hexBracedStep (h : r.Tracked lost) (place : Place) (digits : List Char)
    (c : Char) :
    Follows saved tokens lost (r.hexBracedStep place digits c)
      ((r.within saved tokens).hexBracedStep place digits c) := by
  unfold hexBracedStep
  split
  · split
    · exact .error
    · exact follows_deliverCode h place _ _
  split
  · exact .ok ⟨h.depth, rfl⟩
  · exact .error

theorem follows_propertyStartStep (h : r.Tracked lost) (place : Place) (negated : Bool)
    (c : Char) :
    Follows saved tokens lost (r.propertyStartStep place negated c)
      ((r.within saved tokens).propertyStartStep place negated c) := by
  unfold propertyStartStep
  split
  · exact .ok ⟨h.depth, rfl⟩
  split
  · exact .error
  · exact follows_deliverProperty h place _ negated

theorem follows_propertyBracedStep (h : r.Tracked lost) (place : Place) (negated : Bool)
    (chars : List Char) (c : Char) :
    Follows saved tokens lost (r.propertyBracedStep place negated chars c)
      ((r.within saved tokens).propertyBracedStep place negated chars c) := by
  unfold propertyBracedStep
  split
  · exact follows_deliverProperty h place _ negated
  · exact .ok ⟨h.depth, rfl⟩

theorem follows_countMinStep (h : r.Tracked lost) (digits : List Char) (ended : Bool) (c : Char) :
    Follows saved tokens lost (r.countMinStep digits ended c)
      ((r.within saved tokens).countMinStep digits ended c) := by
  unfold countMinStep
  split
  · exact .ok ⟨h.depth, rfl⟩
  split
  · exact .ok ⟨h.depth, rfl⟩
  split
  · exact .error
  split
  · exact .ok ⟨h.depth, rfl⟩
  split
  · exact .ok ⟨h.depth, rfl⟩
  · exact .error

theorem follows_countMaxStep (h : r.Tracked lost) (min : Nat) (digits : List Char)
    (ended seen : Bool) (c : Char) :
    Follows saved tokens lost (r.countMaxStep min digits ended seen c)
      ((r.within saved tokens).countMaxStep min digits ended seen c) := by
  unfold countMaxStep
  split
  · exact .ok ⟨h.depth, rfl⟩
  split
  · exact .ok ⟨h.depth, rfl⟩
  split
  · exact .error
  split
  · exact .ok ⟨h.depth, rfl⟩
  split
  · exact .error
  split
  · exact .ok ⟨h.depth, rfl⟩
  · exact .error

theorem follows_boundaryOpenedStep (h : r.Tracked lost) (c : Char) :
    Follows saved tokens lost (r.boundaryOpenedStep c)
      ((r.within saved tokens).boundaryOpenedStep c) := by
  unfold boundaryOpenedStep
  split
  · exact .ok ⟨h.depth, rfl⟩
  · have hboundary : (r.emitAtom (.assertion (.word .boundary))).Tracked lost := ⟨h.depth, rfl⟩
    exact follows_countMinStep hboundary [] false c

theorem follows_boundaryNameStep (h : r.Tracked lost) (chars : List Char) (c : Char) :
    Follows saved tokens lost (r.boundaryNameStep chars c)
      ((r.within saved tokens).boundaryNameStep chars c) := by
  unfold boundaryNameStep
  split
  · exact .ok ⟨h.depth, rfl⟩
  split
  · exact .error
  split
  · exact .ok ⟨h.depth, rfl⟩
  · exact .error

theorem follows_classBodyStep (h : r.Tracked lost) (c : Char) :
    Follows saved tokens lost (.ok (r.classBodyStep c))
      (.ok ((r.within saved tokens).classBodyStep c)) := by
  unfold classBodyStep
  split
  case h_2 => exact follows_closeClass h
  all_goals exact .ok ⟨h.depth, rfl⟩

theorem follows_classDashesStep (h : r.Tracked lost) (c : Char) :
    Follows saved tokens lost (.ok (r.classDashesStep c))
      (.ok ((r.within saved tokens).classDashesStep c)) := by
  unfold classDashesStep
  split
  · exact .ok ⟨h.depth, rfl⟩
  · exact follows_classBodyStep h c

theorem follows_classStartStep (h : r.Tracked lost) (caret : Bool) (c : Char) :
    Follows saved tokens lost (.ok (r.classStartStep caret c))
      (.ok ((r.within saved tokens).classStartStep caret c)) := by
  unfold classStartStep
  split
  · exact .ok ⟨h.depth, rfl⟩
  split
  · exact .ok ⟨h.depth, rfl⟩
  · exact follows_classDashesStep h c

theorem follows_rangeEndStep (h : r.Tracked lost) (low : Literal) (c : Char) :
    Follows saved tokens lost (r.rangeEndStep low c)
      ((r.within saved tokens).rangeEndStep low c) := by
  unfold rangeEndStep
  split
  · exact .ok ⟨h.depth, rfl⟩
  · exact follows_deliverLiteral h _ _

theorem follows_afterItemStep (h : r.Tracked lost) (item : ClassSet) (c : Char) :
    Follows saved tokens lost (.ok (r.afterItemStep item c))
      (.ok ((r.within saved tokens).afterItemStep item c)) := by
  unfold afterItemStep
  split
  · exact .ok ⟨h.depth, rfl⟩
  · exact follows_classBodyStep (h.addItem item) c

theorem follows_rangeStart (h : r.Tracked lost) (item : ClassSet) :
    Follows saved tokens lost (r.rangeStart item) ((r.within saved tokens).rangeStart item) := by
  cases item with
  | literal low => exact .ok ⟨h.depth, rfl⟩
  | _ => exact .error

theorem follows_afterDashStep (h : r.Tracked lost) (item : ClassSet) (adjacent : Bool) (c : Char) :
    Follows saved tokens lost (r.afterDashStep item adjacent c)
      ((r.within saved tokens).afterDashStep item adjacent c) := by
  unfold afterDashStep
  split
  · exact follows_closeClass ((h.addItem item).addItem _)
  split
  · split
    · exact .ok ⟨h.depth, rfl⟩
    · exact .ok ⟨h.depth, rfl⟩
  · cases item with
    | literal low =>
      have hrange : (r.enter (.rangeEnd low)).Tracked lost := ⟨h.depth, rfl⟩
      exact follows_rangeEndStep hrange low c
    | _ => exact .error

theorem follows_closeGroup (h : r.Tracked lost)
    (hopen : r.saved ≠ [] ∨ lost = true ∧ saved = []) :
    Follows saved tokens lost (.ok r.closeGroup) (.ok (r.within saved tokens).closeGroup) := by
  obtain ⟨mode, comment, extended, own, classes, read⟩ := r
  have hdepth : depth? (.closing :: read) = (depth? read).bind Nat.ppred := rfl
  rcases hopen with hown | ⟨rfl, rfl⟩
  -- The group that ends is one of the text's own, or there is none around either.
  · obtain ⟨first, rest, rfl⟩ := List.exists_cons_of_ne_nil hown
    refine .ok ⟨?_, rfl⟩
    refine hdepth.trans ?_
    rw [h.depth]
    cases lost <;> rfl
  · refine ⟨?_, ?_⟩
    · simp [closeGroup, within, emit, Except.map]
    · rintro _ ⟨rfl⟩
      refine ⟨?_, rfl⟩
      refine hdepth.trans ?_
      rw [h.depth]
      rfl

theorem follows_sequenceStep (h : r.Tracked lost) (c : Char)
    (hopen : c = ')' → r.saved ≠ [] ∨ lost = true ∧ saved = []) :
    Follows saved tokens lost (.ok (r.sequenceStep c))
      (.ok ((r.within saved tokens).sequenceStep c)) := by
  unfold sequenceStep
  split
  case h_2 => exact follows_closeGroup h (hopen rfl)
  all_goals exact .ok ⟨h.depth, rfl⟩

/-- The reader with what it is in the middle of brought to an end, where that can be. -/
def settled (r : Reader) : Option Reader :=
  match r.mode with
  | .sequence => some r
  | .repetition min max | .counted min max => some (r.emit (.repetition min max false))
  | .boundary => some (r.emitAtom (.assertion (.word .boundary)))
  | _ => none

theorem finish_eq_settled (r : Reader) :
    r.finish = match r.settled with
      | some q => .ok q.tokens.reverse
      | none => .error .unexpectedEnd := by
  obtain ⟨mode, comment, extended, own, classes, read⟩ := r
  cases mode <;> rfl

theorem follows_visibleStep (h : r.Tracked lost) (hsettled : r.settled = none) (c : Char) :
    Follows saved tokens lost (r.visibleStep c) ((r.within saved tokens).visibleStep c) := by
  obtain ⟨mode, comment, extended, own, classes, read⟩ := r
  cases mode with
  | sequence => simp [settled] at hsettled
  | counted min max => simp [settled] at hsettled
  | countMin digits ended => exact follows_countMinStep h digits ended c
  | countMax min digits ended seen => exact follows_countMaxStep h min digits ended seen c
  | opened =>
    simp only [visibleStep, within]
    split
    · exact .ok ⟨h.depth, rfl⟩
    · exact follows_sequenceStep (h.openGroup _) c fun _ => .inl (List.cons_ne_nil _ _)
  | openedQuestion => exact follows_openedQuestionStep h c
  | openedName =>
    simp only [visibleStep, within]
    split
    · exact .ok ⟨h.depth, rfl⟩
    · exact .error
  | groupName chars => exact follows_groupNameStep h chars c
  | flags items value dangling => exact follows_flagsStep h items value dangling c
  | escape place => exact follows_escapeStep h place c
  | hexStart place width => exact follows_hexStartStep h place width c
  | hexDigits place width digits => exact follows_hexDigitsStep h place width digits c
  | hexBraced place digits => exact follows_hexBracedStep h place digits c
  | propertyStart place negated => exact follows_propertyStartStep h place negated c
  | propertyBraced place negated chars => exact follows_propertyBracedStep h place negated chars c
  | boundaryOpened => exact follows_boundaryOpenedStep h c
  | boundaryName chars => exact follows_boundaryNameStep h chars c
  | classStart caret => exact follows_classStartStep h caret c
  | classDashes => exact follows_classDashesStep h c
  | classBody => exact follows_classBodyStep h c
  | afterItem item => exact follows_afterItemStep h item c
  | afterDash item adjacent => exact follows_afterDashStep h item adjacent c
  | rangeEnd low => exact follows_rangeEndStep h low c
  | repetition | boundary | classOperator | className | dashComment => exact .ok h

theorem follows_plainStep_of_visible (h : r.Tracked lost) {c : Char}
    (hvisible : Follows saved tokens lost (r.visibleStep c)
      ((r.within saved tokens).visibleStep c)) :
    Follows saved tokens lost (r.plainStep c) ((r.within saved tokens).plainStep c) := by
  obtain ⟨mode, comment, extended, own, classes, read⟩ := r
  unfold plainStep
  by_cases hskips : extended && mode.skips && (Text.isBlank c || c = '#')
  · simp only [within, hskips, if_true]
    cases mode with
    | afterDash item adjacent =>
      by_cases hc : c = '#'
      · simp only [if_pos hc]
        exact .ok ⟨h.depth, rfl⟩
      · simp only [if_neg hc]
        exact .ok ⟨h.depth, rfl⟩
    | _ => exact .ok ⟨h.depth, h.named⟩
  · simp only [within, hskips]
    exact hvisible

theorem follows_plainStep (h : r.Tracked lost) (hsettled : r.settled = none) (c : Char) :
    Follows saved tokens lost (r.plainStep c) ((r.within saved tokens).plainStep c) :=
  follows_plainStep_of_visible h (follows_visibleStep h hsettled c)

theorem Follows.bind {x y : Except Error Reader} {f : Reader → Except Error Reader}
    (h : Follows saved tokens lost x y)
    (hf : ∀ q, x = .ok q → q.Tracked lost →
      Follows saved tokens lost (f q) (f (q.within saved tokens))) :
    Follows saved tokens lost (x >>= f) (y >>= f) := by
  obtain ⟨rfl, htracked⟩ := h
  cases x with
  | error e => exact .error
  | ok q => exact hf q rfl (htracked q rfl)

theorem plainStep_eq_visibleStep (r : Reader) {c : Char} (hblank : Text.isBlank c = false)
    (hcomment : c ≠ '#') : r.plainStep c = r.visibleStep c := by
  simp [plainStep, hblank, hcomment]

theorem nameChar_visible {c : Char} (hc : c ∈ nameChars) :
    Text.isBlank c = false ∧ c ≠ '#' := by
  have hall : nameChars.all fun c => !Text.isBlank c && c != '#' := by decide
  simpa using List.all_eq_true.1 hall c hc

theorem classBodyStep_nameChar (r : Reader) {c : Char} (hc : c ∈ nameChars) :
    r.classBodyStep c = r.enter (.afterItem (.literal ⟨c, false⟩)) := by
  unfold classBodyStep
  split
  case h_7 => rfl
  all_goals exact absurd hc (by decide)

def Mode.beginsMember : Mode → Bool
  | .classStart _ => true
  | .afterItem _ => true
  | _ => false

theorem settled_of_beginsMember (h : Mode.beginsMember r.mode) : r.settled = none := by
  obtain ⟨mode, comment, extended, own, classes, read⟩ := r
  cases mode <;> first | rfl | simp [Mode.beginsMember] at h

theorem plainStep_nameChar (h : Mode.beginsMember r.mode) {c : Char} (hc : c ∈ nameChars) :
    ∃ q, r.plainStep c = .ok q ∧ Mode.beginsMember q.mode := by
  obtain ⟨hblank, hcomment⟩ := nameChar_visible hc
  have hclose : c ≠ ']' := by
    rintro rfl
    exact absurd hc (by decide)
  have hdash : c ≠ '-' := by
    rintro rfl
    exact absurd hc (by decide)
  rw [plainStep_eq_visibleStep r hblank hcomment]
  obtain ⟨mode, comment, extended, own, classes, read⟩ := r
  cases mode with
  | classStart caret =>
    simp only [visibleStep, classStartStep, classDashesStep, hclose, hdash, if_false,
      classBodyStep_nameChar _ hc]
    split
    · exact ⟨_, rfl, rfl⟩
    · exact ⟨_, rfl, rfl⟩
  | afterItem item =>
    simp only [visibleStep, afterItemStep, hdash, if_false, classBodyStep_nameChar _ hc]
    exact ⟨_, rfl, rfl⟩
  | _ => simp [Mode.beginsMember] at h

theorem follows_members {chars : List Char} (hchars : chars.all nameChars.contains)
    (hmode : Mode.beginsMember r.mode) (h : r.Tracked lost) (c : Char) :
    Follows saved tokens lost ((chars ++ [c]).foldlM plainStep r)
      ((chars ++ [c]).foldlM plainStep (r.within saved tokens)) := by
  induction chars generalizing r with
  | nil =>
    simp only [List.nil_append, List.foldlM_cons, List.foldlM_nil, bind_pure]
    exact follows_plainStep h (settled_of_beginsMember hmode) c
  | cons first rest ih =>
    simp only [List.all_cons, Bool.and_eq_true, List.contains_iff_mem] at hchars
    simp only [List.cons_append, List.foldlM_cons]
    apply (follows_plainStep h (settled_of_beginsMember hmode) first).bind
    intro q hq hqtracked
    obtain ⟨p, hp, hpmode⟩ := plainStep_nameChar hmode hchars.1
    obtain rfl := Except.ok.inj (hp.symm.trans hq)
    exact ih hchars.2 hpmode hqtracked

theorem asciiItems_shape {entry : List Char × ClassSet} (h : entry ∈ asciiItems) :
    entry.1 = entry.1.dropLast ++ [']'] ∧ entry.1.dropLast.all nameChars.contains := by
  revert entry
  decide

theorem nameChars_of_prefix {chars : List Char} (hlookup : asciiItems.lookup chars = none)
    (hlead : asciiItems.any fun entry => chars.isPrefixOf entry.1) :
    chars.all nameChars.contains := by
  obtain ⟨entry, hentry, hstart⟩ := List.any_eq_true.1 hlead
  obtain ⟨hend, hall⟩ := asciiItems_shape hentry
  rw [hend, List.isPrefixOf_iff_prefix, List.prefix_concat_iff, ← hend] at hstart
  rcases hstart with rfl | hstart
  · simpa using List.lookup_eq_none_iff.1 hlookup entry hentry
  · rw [List.all_eq_true] at hall ⊢
    intro c hc
    exact hall c (hstart.subset hc)

theorem follows_classNameStep (h : r.Tracked lost) {chars : List Char}
    (hchars : chars.all nameChars.contains) (c : Char) :
    Follows saved tokens lost (r.classNameStep chars c)
      ((r.within saved tokens).classNameStep chars c) := by
  simp only [classNameStep]
  split
  · exact .ok ⟨h.depth, rfl⟩
  · next hlookup =>
    -- Where no name can come of it, what has been read is read again as members of a class.
    split
    · next hlead => exact .ok ⟨h.depth, nameChars_of_prefix hlookup hlead⟩
    · have hopen : r.openClass.Tracked lost := ⟨h.depth, rfl⟩
      exact follows_members hchars rfl hopen c

theorem follows_classOperatorStep (h : r.Tracked lost) (operator : SetOperator) (c : Char) :
    Follows saved tokens lost (r.classOperatorStep operator c)
      ((r.within saved tokens).classOperatorStep operator c) := by
  unfold classOperatorStep
  split
  · exact .ok ⟨h.depth, rfl⟩
  · have hitem : (r.enter (.afterItem (.literal ⟨operatorChar operator, false⟩))).Tracked lost :=
      ⟨h.depth, rfl⟩
    exact follows_plainStep hitem rfl c

theorem settled_rangeStart {q : Reader} {item : ClassSet} (h : r.rangeStart item = .ok q) :
    q.settled = none := by
  cases item with
  | literal low =>
    obtain rfl := Except.ok.inj h
    rfl
  | _ => simp [rangeStart] at h

theorem follows_dashCommentStep (h : r.Tracked lost) (item : ClassSet) (inside : Bool) (c : Char) :
    Follows saved tokens lost (r.dashCommentStep item inside c)
      ((r.within saved tokens).dashCommentStep item inside c) := by
  simp only [dashCommentStep]
  split
  · exact .ok ⟨h.depth, rfl⟩
  have hbehind : ∀ q : Reader, q.Tracked lost → q.settled = none →
      Follows saved tokens lost (if inside then .ok { q with comment := true } else q.plainStep c)
        (if inside then .ok { q.within saved tokens with comment := true }
          else (q.within saved tokens).plainStep c) := by
    intro q hq hsettled
    split
    · exact .ok ⟨hq.depth, hq.named⟩
    · exact follows_plainStep hq hsettled c
  split
  · exact hbehind ((r.addItem item).enter (.afterItem (.literal ⟨'-', false⟩))) ⟨h.depth, rfl⟩ rfl
  · apply (follows_rangeStart h item).bind
    intro q hq hqtracked
    exact hbehind q hqtracked (settled_rangeStart hq)

/-- A closing parenthesis outside classes is where reading inside may part from reading outside. -/
theorem follows_step (h : r.Tracked lost) (c : Char)
    (hopen : c = ')' → r.comment = false → r.settled.isSome →
      r.saved ≠ [] ∨ lost = true ∧ saved = []) :
    Follows saved tokens lost (r.step c) ((r.within saved tokens).step c) := by
  obtain ⟨mode, comment, extended, own, classes, read⟩ := r
  unfold step
  cases comment with
  | true => exact .ok ⟨h.depth, h.named⟩
  | false =>
    cases mode with
    | sequence =>
      exact follows_plainStep_of_visible h (follows_sequenceStep h c fun hc => hopen hc rfl rfl)
    | repetition min max =>
      simp only [within, Bool.false_eq_true, if_false]
      split
      · exact .ok ⟨h.depth, rfl⟩
      · have hemit : Tracked lost (emit ⟨.repetition min max, false, extended, own, classes, read⟩
            (.repetition min max false)) := ⟨h.depth, rfl⟩
        exact follows_plainStep_of_visible hemit
          (follows_sequenceStep hemit c fun hc => hopen hc rfl rfl)
    | counted min max =>
      apply follows_plainStep_of_visible h
      simp only [visibleStep, within]
      split
      · exact .ok ⟨h.depth, rfl⟩
      · have hemit : Tracked lost (emit ⟨.counted min max, false, extended, own, classes, read⟩
            (.repetition min max false)) := ⟨h.depth, rfl⟩
        exact follows_sequenceStep hemit c fun hc => hopen hc rfl rfl
    | boundary =>
      simp only [within, Bool.false_eq_true, if_false]
      split
      · exact .ok ⟨h.depth, rfl⟩
      · have hemit : Tracked lost (emitAtom ⟨.boundary, false, extended, own, classes, read⟩
            (.assertion (.word .boundary))) := ⟨h.depth, rfl⟩
        exact follows_plainStep_of_visible hemit
          (follows_sequenceStep hemit c fun hc => hopen hc rfl rfl)
    | classOperator operator => exact follows_classOperatorStep h operator c
    | className chars => exact follows_classNameStep h h.named c
    | dashComment item inside => exact follows_dashCommentStep h item inside c
    | _ => exact follows_plainStep h rfl c

end Reader

end UtilityCss.Regex
