import UtilityCss.Proofs.Regex.Group.Indices
import UtilityCss.Proofs.Regex.Search
import UtilityCss.Proofs.Rule.Table

/-!
What a pattern rule promises about its pattern: that the pattern is a regular expression by itself,
and matches each token that the rule accepts from end to end. The pattern is held to the two ends of
the token by what is written around it, so the promise stands or falls with the parentheses: it is
kept unless the pattern closes a group that it has not opened.
-/
namespace UtilityCss

namespace Regex.Expr

def MatchesWhole (e : Expr) (token : List Char) : Prop :=
  ∃ slots, e.Matches token.toArray ⟨0, []⟩ ⟨token.length, slots⟩

variable {text : Array Char} {e : Expr}

theorem matches_anchored {i : Nat} {b : Cursor} (hi : i ≤ text.size) :
    e.anchored.Matches text ⟨i, []⟩ b ↔
      i = 0 ∧ b.position = text.size ∧ e.Matches text ⟨i, []⟩ b := by
  have hstart : Look.textStart.holds (Cursor.before text ⟨i, []⟩) text[i]? ↔ i = 0 := by
    simp only [Look.holds, Cursor.before, Option.isNone_iff_eq_none, ite_eq_left_iff,
      Array.getElem?_eq_none_iff]
    omega
  have hend : ∀ c : Cursor, Look.textEnd.holds (c.before text) text[c.position]? ↔
      text.size ≤ c.position := by
    intro c
    simp [Look.holds]
  rw [anchored, matches_sequence]
  simp only [MatchesAll, Matches, hstart, hend]
  constructor
  · rintro ⟨_, ⟨h, rfl⟩, c, hc, _, ⟨hsize, rfl⟩, rfl⟩
    exact ⟨h, Nat.le_antisymm (hc.position_le hi) hsize, hc⟩
  · rintro ⟨h, hposition, hb⟩
    exact ⟨_, ⟨h, rfl⟩, b, hb, b, ⟨hposition.ge, rfl⟩, rfl⟩

/-- A search for an expression between the two ends of a token finds whole matches only. -/
theorem firstMatch_anchored {token : List Char} {slots : List (Nat × Nat)}
    (h : firstMatch e.anchored.program token.toArray = some slots) :
    e.Matches token.toArray ⟨0, []⟩ ⟨token.length, slots⟩ := by
  obtain ⟨i, hi, j, hmatch⟩ := firstMatch_sound h
  obtain ⟨rfl, rfl, hmatch⟩ := (matches_anchored hi).1 hmatch
  exact hmatch

theorem isSome_firstMatch_anchored {token : List Char} :
    (firstMatch e.anchored.program token.toArray).isSome ↔ e.MatchesWhole token := by
  constructor
  · intro h
    obtain ⟨slots, hslots⟩ := Option.isSome_iff_exists.1 h
    exact ⟨slots, firstMatch_anchored hslots⟩
  · rintro ⟨slots, hslots⟩
    exact firstMatch_complete (Nat.zero_le _)
      ((matches_anchored (Nat.zero_le _)).2 ⟨rfl, by simp, hslots⟩)

end Regex.Expr

open Regex (Expr Overcloses)

theorem Rule.toList_anchored (pattern : String) :
    (Rule.anchored pattern).toList = "^(?:".toList ++ (pattern.toList ++ ")$".toList) := by
  simp [Rule.anchored]

namespace CompiledMatcher

/-- The pattern by itself is a regular expression with the groups that are read, and the tokens that
are accepted are those that it matches as a whole. -/
def Keeps (limit : Option Nat) (pattern : String) (arity : Nat) (m : CompiledMatcher) : Prop :=
  ∃ e r, Expr.ofText pattern.toList = .ok e ∧ Regex.ofText limit pattern.toList = .ok r ∧
    arity ≤ r.groupCount ∧ ∀ token, (m.accept token).isSome ↔ e.MatchesWhole token.toList

end CompiledMatcher

namespace Rule

variable {limit : Option Nat} {r : Rule} {pattern : String} {arity : Nat}

theorem compile_pattern {c : CompiledRule} (hmatcher : r.matcher = .pattern pattern arity)
    (h : r.compile limit = .ok c) :
    ∃ regex, Regex.ofText limit (anchored pattern).toList = .ok regex ∧ arity ≤ regex.groupCount ∧
      c.matcher = .pattern (anchored pattern) regex := by
  obtain ⟨-, -, -, ⟨literal, hexact, -⟩ | ⟨_, _, regex, hpattern, hregex, harity, hc⟩⟩ :=
    compile_eq_ok h
  · nomatch hmatcher.symm.trans hexact
  · obtain ⟨rfl, rfl⟩ := Matcher.pattern.inj (hmatcher.symm.trans hpattern)
    exact ⟨regex, hregex, harity, hc⟩

end Rule

namespace Regex

theorem ofExpr_of_anchored {limit : Option Nat} {e : Expr} {r : Regex} (he : e.Tidy)
    (h : ofExpr limit e.anchored = .ok r) :
    ofExpr limit e = .ok ⟨e.captureCount, e.lastCapture, e.program⟩ := by
  unfold ofExpr at h ⊢
  cases limit with
  | none => rfl
  | some n =>
    have hforward := Expr.size_le_anchored he false
    have hbackward := Expr.size_le_anchored he true
    simp only [Option.any_some, Bool.or_eq_true, decide_eq_true_eq] at h ⊢
    split at h
    · simp at h
    · next hfits =>
      rw [if_neg]
      omega

theorem ofText_anchored {limit : Option Nat} {pattern : String} {r : Regex}
    (hnever : ¬ Overcloses pattern.toList)
    (h : ofText limit (Rule.anchored pattern).toList = .ok r) :
    ∃ e, Expr.ofText pattern.toList = .ok e ∧
      ofText limit pattern.toList = .ok ⟨e.captureCount, e.lastCapture, e.program⟩ ∧
      r.groupCount = e.captureCount ∧ r.program = e.anchored.program := by
  rw [Rule.toList_anchored] at h
  obtain ⟨whole, hwhole, hlimit⟩ := bind_eq_ok.1 h
  obtain ⟨e, he, htidy, rfl⟩ := Expr.ofText_group hnever hwhole
  obtain rfl := ofExpr_eq_ok hlimit
  refine ⟨e, he, ?_, Expr.captureCount_anchored e, rfl⟩
  rw [ofText, he]
  exact ofExpr_of_anchored htidy hlimit

end Regex

namespace Rule

variable {limit : Option Nat} {r : Rule} {pattern : String} {arity : Nat}

theorem keeps_of_compile {c : CompiledRule} (hmatcher : r.matcher = .pattern pattern arity)
    (hnever : ¬ Overcloses pattern.toList) (h : r.compile limit = .ok c) :
    c.matcher.Keeps limit pattern arity := by
  obtain ⟨regex, hregex, harity, hc⟩ := compile_pattern hmatcher h
  obtain ⟨e, he, hown, hcount, hprogram⟩ := Regex.ofText_anchored hnever hregex
  refine ⟨e, _, he, hown, hcount ▸ harity, ?_⟩
  intro token
  rw [hc]
  simp only [CompiledMatcher.accept, Regex.captures, Option.isSome_map, hprogram]
  exact Expr.isSome_firstMatch_anchored

theorem not_keeps_of_overcloses {m : CompiledMatcher} (h : Overcloses pattern.toList) :
    ¬ m.Keeps limit pattern arity := by
  rintro ⟨e, -, he, -⟩
  exact Expr.ofText_ne_ok h e he

theorem compile_invalid (hmatcher : r.matcher = .pattern pattern arity)
    (hnever : ¬ Overcloses pattern.toList) (hnonempty : pattern.isEmpty = false)
    (hinvalid : ∀ regex, Regex.ofText limit pattern.toList ≠ .ok regex) :
    ∃ cause, r.compile limit = .error (.invalidPattern r.name cause) := by
  simp only [compile, hmatcher, hnonempty]
  cases hregex : Regex.ofText limit (anchored pattern).toList with
  | error cause => exact ⟨cause, rfl⟩
  | ok regex =>
    obtain ⟨e, -, hown, -⟩ := Regex.ofText_anchored hnever hregex
    exact absurd hown (hinvalid _)

end Rule

/-- Of a rule in a table, the pattern is kept just where it does not close a group that it has not
opened. Such a pattern is also what keeps an invalid one from being reported. -/
theorem RuleTable.pattern_kept_iff (limit : Option Nat) (r : Rule) (pattern : String) (arity : Nat)
    (hmatcher : r.matcher = .pattern pattern arity) :
    (∀ (table extended : RuleTable) (rules : List Rule) (i : Nat),
      table.extend limit rules = .ok extended → rules[i]? = some r →
        ∃ c, extended.rules[table.size + i]? = some c ∧ r.compile limit = .ok c ∧
          (c.matcher.Keeps limit pattern arity ↔ ¬ Overcloses pattern.toList)) ∧
    (¬ Overcloses pattern.toList → pattern.isEmpty = false →
      (∀ regex, Regex.ofText limit pattern.toList ≠ .ok regex) →
        ∃ cause, ∀ (table : RuleTable) (front back : List Rule),
          (∀ f ∈ front, ∃ c, f.compile limit = .ok c) →
            table.extend limit (front ++ r :: back) = .error (.invalidPattern r.name cause)) := by
  constructor
  · intro table extended rules i hextend hi
    obtain ⟨c, hc, hcompile⟩ := extend_rule hextend hi
    refine ⟨c, hc, hcompile, ?_⟩
    constructor
    · intro hkeeps hover
      exact Rule.not_keeps_of_overcloses hover hkeeps
    · intro hnever
      exact Rule.keeps_of_compile hmatcher hnever hcompile
  · intro hnever hnonempty hinvalid
    obtain ⟨cause, hcause⟩ := Rule.compile_invalid hmatcher hnever hnonempty hinvalid
    exact ⟨cause, fun table front back hfront => extend_error hfront hcause⟩

theorem RuleTable.pattern_kept_pair :
    (∃ table c, ofRules (some Regex.sizeLimit)
        [⟨"r", .pattern "(ab)+" 1, .components, fun _ _ => []⟩] = .ok table ∧
      table.rules[0]? = some c ∧ c.matcher.Keeps (some Regex.sizeLimit) "(ab)+" 1) ∧
    ∃ cause, ofRules (some Regex.sizeLimit)
      [⟨"r", .pattern "(ab" 1, .components, fun _ _ => []⟩] =
        .error (.invalidPattern "r" cause) := by
  constructor
  · let e : Expr := .repetition 1 none false (.capture 1 (.cat (.set (.ofChar 'a')) (.set (.ofChar 'b'))))
    have htable : ofRules (some Regex.sizeLimit)
        [⟨"r", .pattern "(ab)+" 1, .components, fun _ _ => []⟩] = .ok ⟨[⟨"r",
          .pattern "^(?:(ab)+)$" ⟨1, 1, e.anchored.program⟩, .components, fun _ _ => []⟩]⟩ := rfl
    obtain ⟨c, hc, -, hkeeps⟩ := (pattern_kept_iff _ _ _ _ rfl).1 empty _ _ 0
      ((ofRules_eq_extend_empty _ _).symm.trans htable) rfl
    exact ⟨_, c, htable, hc, hkeeps.2 (by decide)⟩
  · have hinvalid : Regex.ofText (some Regex.sizeLimit) "(ab".toList = .error .unclosedGroup := rfl
    obtain ⟨cause, hcause⟩ := (pattern_kept_iff (some Regex.sizeLimit)
      ⟨"r", .pattern "(ab" 1, .components, fun _ _ => []⟩ _ _ rfl).2 (by decide) (by decide)
      (by rw [hinvalid]; rintro regex ⟨⟩)
    exact ⟨cause, hcause empty [] [] (by simp)⟩

/-- A pattern that overcloses is accepted, although it is no regular expression, and so is a token
that goes on behind what it matches. -/
theorem RuleTable.overclosing_pattern_accepted :
    (∀ e, Expr.ofText "a)|(?:b".toList ≠ .ok e) ∧
      ∃ table, ofRules (some Regex.sizeLimit)
          [⟨"r", .pattern "a)|(?:b" 0, .components, fun _ _ => []⟩] = .ok table ∧
        (table.dispatch "ax").isSome := by
  constructor
  · have hinvalid : Expr.ofText "a)|(?:b".toList = .error .unopenedGroup := rfl
    rw [hinvalid]
    rintro e ⟨⟩
  · let e : Expr := .alt (.cat (.look .textStart) (.set (.ofChar 'a')))
      (.cat (.set (.ofChar 'b')) (.look .textEnd))
    refine ⟨⟨[⟨"r", .pattern "^(?:a)|(?:b)$" ⟨0, 0, e.program⟩, .components, fun _ _ => []⟩]⟩,
      rfl, ?_⟩
    have hmatch : e.Matches "ax".toList.toArray ⟨0, []⟩ ⟨1, []⟩ :=
      .inl ⟨⟨0, []⟩, ⟨rfl, rfl⟩, ⟨'a', rfl, rfl⟩, rfl⟩
    obtain ⟨slots, hslots⟩ :=
      Option.isSome_iff_exists.1 (Regex.firstMatch_complete (Nat.zero_le _) hmatch)
    simp only [dispatch, dispatchFrom, CompiledRule.fragments?, CompiledMatcher.accept,
      Regex.captures, hslots]
    rfl

end UtilityCss
