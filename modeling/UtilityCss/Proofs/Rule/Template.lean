import Mathlib
import UtilityCss.Proofs.Rule.Extension
import UtilityCss.Rule.Spec

/-!
What templates stand for. A template is cut into pieces in one way, from left to right, and its
value for a match is the pieces one after another with captures put in, provided that each capture
that is named is there and is a piece of an identifier. Otherwise there is no value, and the token
that was matched gives nothing.
-/
namespace UtilityCss

namespace Template

inductive Piece where
  /-- Anything but a dollar sign. -/
  | char (c : Char)
  /-- Two dollar signs. -/
  | doubled
  /-- A dollar sign and a digit. -/
  | capture (digit : Char)
  /-- A dollar sign in front of anything else, or at the end. -/
  | lone
  deriving DecidableEq, Repr, Inhabited

/-- A template and its pieces from left to right. -/
inductive Splits : List Char → List Piece → Prop where
  | nil : Splits [] []
  | char {c : Char} {rest : List Char} {pieces : List Piece} (hc : c ≠ '$')
      (h : Splits rest pieces) : Splits (c :: rest) (.char c :: pieces)
  | doubled {rest : List Char} {pieces : List Piece} (h : Splits rest pieces) :
      Splits ('$' :: '$' :: rest) (.doubled :: pieces)
  | capture {digit : Char} {rest : List Char} {pieces : List Piece} (hdigit : digit.isDigit)
      (h : Splits rest pieces) : Splits ('$' :: digit :: rest) (.capture digit :: pieces)
  | lone {rest : List Char} {pieces : List Piece}
      (hnext : ∀ c ∈ rest.head?, c ≠ '$' ∧ ¬ c.isDigit) (h : Splits rest pieces) :
      Splits ('$' :: rest) (.lone :: pieces)

theorem ne_dollar_of_isDigit {c : Char} (h : c.isDigit) : c ≠ '$' := by
  rintro rfl
  exact absurd h (by decide)

theorem exists_splits (template : List Char) : ∃ pieces, Splits template pieces := by
  fun_induction largestIndex template with
  | case1 => exact ⟨[], .nil⟩
  | case2 rest ih =>
    obtain ⟨pieces, h⟩ := ih
    exact ⟨.doubled :: pieces, .doubled h⟩
  | case3 digit rest _ hdigit ih =>
    obtain ⟨pieces, h⟩ := ih
    exact ⟨.capture digit :: pieces, .capture hdigit h⟩
  | case4 c rest hc hdigit ih =>
    obtain ⟨pieces, h⟩ := ih
    have hnext : ∀ d ∈ (c :: rest).head?, d ≠ '$' ∧ ¬ d.isDigit := by
      rintro d ⟨⟩
      exact ⟨hc, hdigit⟩
    exact ⟨.lone :: pieces, .lone hnext h⟩
  | case5 c rest hdoubled hbehind ih =>
    obtain ⟨pieces, h⟩ := ih
    by_cases hc : c = '$'
    · subst hc
      cases rest with
      | nil => exact ⟨.lone :: pieces, .lone (by simp) h⟩
      | cons d rest => exact absurd rfl (hbehind d rest rfl)
    · exact ⟨.char c :: pieces, .char hc h⟩

theorem Splits.unique {template : List Char} {pieces others : List Piece}
    (h : Splits template pieces) (hothers : Splits template others) : others = pieces := by
  induction h generalizing others with
  | nil =>
    cases hothers
    rfl
  | char hc h ih =>
    cases hothers with
    | char _ hother => rw [ih hother]
    | doubled => exact absurd rfl hc
    | capture => exact absurd rfl hc
    | lone => exact absurd rfl hc
  | doubled h ih =>
    cases hothers with
    | char hc => exact absurd rfl hc
    | doubled hother => rw [ih hother]
    | capture hdigit => exact absurd rfl (ne_dollar_of_isDigit hdigit)
    | lone hnext => exact absurd rfl (hnext '$' rfl).1
  | capture hdigit h ih =>
    cases hothers with
    | char hc => exact absurd rfl hc
    | doubled => exact absurd rfl (ne_dollar_of_isDigit hdigit)
    | capture _ hother => rw [ih hother]
    | lone hnext => exact absurd hdigit (hnext _ rfl).2
  | lone hnext h ih =>
    cases hothers with
    | char hc => exact absurd rfl hc
    | doubled => exact absurd rfl (hnext '$' rfl).1
    | capture hdigit => exact absurd hdigit (hnext _ rfl).2
    | lone _ hother => rw [ih hother]

def IsIdentifierText (text : String) : Prop :=
  text ≠ "" ∧ ∀ c ∈ text.toList, c.isAlphanum ∨ c = '-' ∨ c = '_'

/-- A capture took part in the match, and may stand in a value. -/
def Piece.IsAdmitted (m : RuleMatch) : Piece → Prop
  | capture digit => ∃ text, m.group? (digitValue digit) = some text ∧ IsIdentifierText text
  | _ => True

def Piece.value (m : RuleMatch) : Piece → List Char
  | char c => [c]
  | doubled => ['$']
  | capture digit => ((m.group? (digitValue digit)).getD "").toList
  | lone => ['$']

theorem isFragment_iff {text : String} :
    Css.Identifier.isFragment text ↔ IsIdentifierText text := by
  simp [Css.Identifier.isFragment, Css.Identifier.isFragmentChar, IsIdentifierText, or_assoc]

theorem captured_eq_some_iff {m : RuleMatch} {index : Nat} {text : List Char} :
    captured m index = some text ↔
      (∃ s, m.group? index = some s ∧ IsIdentifierText s) ∧
        text = ((m.group? index).getD "").toList := by
  rw [captured, Option.ite_none_right_eq_some, isFragment_iff, Option.some.injEq]
  cases m.group? index with
  | none =>
    have hempty : ¬ IsIdentifierText "" := fun h => h.1 rfl
    simp [hempty]
  | some s => simp [@eq_comm _ text]

variable {m : RuleMatch} {rest : List Char}

theorem expandChars_char {c : Char} (hc : c ≠ '$') :
    expandChars m (c :: rest) = (expandChars m rest).map (c :: ·) := by
  rw [expandChars]
  · intro _ h
    exact absurd h hc
  · intro _ _ h
    exact absurd h hc

theorem expandChars_capture {digit : Char} (hdigit : digit.isDigit) :
    expandChars m ('$' :: digit :: rest) =
      (captured m (digitValue digit)).bind fun text => (expandChars m rest).map (text ++ ·) := by
  rw [expandChars, if_pos hdigit]
  exact ne_dollar_of_isDigit hdigit

theorem expandChars_lone (hnext : ∀ c ∈ rest.head?, c ≠ '$' ∧ ¬ c.isDigit) :
    expandChars m ('$' :: rest) = (expandChars m rest).map ('$' :: ·) := by
  cases rest with
  | nil => rfl
  | cons c rest =>
    obtain ⟨hc, hdigit⟩ := hnext c rfl
    rw [expandChars, if_neg hdigit]
    exact hc

/-- A template has a value just where all its captures are admitted, and which one that is. -/
theorem expandChars_eq_some_iff {template value : List Char} {pieces : List Piece}
    (h : Splits template pieces) :
    expandChars m template = some value ↔
      (∀ p ∈ pieces, p.IsAdmitted m) ∧ value = pieces.flatMap (Piece.value m) := by
  induction h generalizing value with
  | nil => simp [expandChars, eq_comm]
  | char hc _ ih =>
    rw [expandChars_char hc, Option.map_eq_some_iff, List.forall_mem_cons]
    simp [ih, Piece.IsAdmitted, Piece.value, @eq_comm _ value]
  | doubled _ ih =>
    rw [expandChars, Option.map_eq_some_iff, List.forall_mem_cons]
    simp [ih, Piece.IsAdmitted, Piece.value, @eq_comm _ value]
  | capture hdigit _ ih =>
    simp only [expandChars_capture hdigit, Option.bind_eq_some_iff, Option.map_eq_some_iff,
      captured_eq_some_iff, ih, List.forall_mem_cons]
    constructor
    · rintro ⟨_, ⟨hadmitted, rfl⟩, _, ⟨hrest, rfl⟩, rfl⟩
      exact ⟨⟨hadmitted, hrest⟩, rfl⟩
    · rintro ⟨⟨hadmitted, hrest⟩, rfl⟩
      exact ⟨_, ⟨hadmitted, rfl⟩, _, ⟨hrest, rfl⟩, rfl⟩
  | lone hnext _ ih =>
    rw [expandChars_lone hnext, Option.map_eq_some_iff, List.forall_mem_cons]
    simp [ih, Piece.IsAdmitted, Piece.value, @eq_comm _ value]

theorem expand_eq_some_iff {template value : String} {pieces : List Piece}
    (h : Splits template.toList pieces) :
    expand template m = some value ↔
      (∀ p ∈ pieces, p.IsAdmitted m) ∧ value = String.ofList (pieces.flatMap (Piece.value m)) := by
  simp [expand, expandChars_eq_some_iff h, @eq_comm _ value]

def quote (text : String) : String :=
  String.ofList (text.toList.flatMap fun c => if c = '$' then ['$', '$'] else [c])

theorem expand_quote (text : String) (m : RuleMatch) : expand (quote text) m = some text := by
  have hchars : ∀ chars : List Char,
      expandChars m (chars.flatMap fun c => if c = '$' then ['$', '$'] else [c]) = some chars := by
    intro chars
    induction chars with
    | nil => rfl
    | cons c rest ih =>
      by_cases hc : c = '$'
      · simp [hc, expandChars, ih]
      · simp [hc, expandChars_char hc, ih]
  simp [expand, quote, hchars]

end Template

open Template

theorem RuleSpec.fragments?_of_accept {spec : RuleSpec} {limit : Option Nat} {c : CompiledRule}
    {token : String} {m : RuleMatch} (hcompile : spec.rule.compile limit = .ok c)
    (hm : c.matcher.accept token = some m) :
    c.fragments? token = some ((expand spec.value m).elim [] fun value =>
      [⟨Css.Identifier.classSelector token, spec.layer.getD .components,
        .singleton spec.property value⟩]) := by
  obtain ⟨-, hlayer, houtput, -⟩ := Rule.compile_eq_ok hcompile
  simp only [CompiledRule.fragments?, hm, houtput, hlayer, Option.map_some, rule, output]
  cases expand spec.value m with
  | none => rfl
  | some value => rfl

/-- A template is cut into pieces in one way, and has a value for a match just where each capture that
is named is a piece of an identifier: the pieces with the captures put in. The token that was matched
gives that value or, without one, nothing. Where each dollar sign is doubled the value is the text. -/
theorem RuleSpec.value_exact (spec : RuleSpec) :
    (∃ pieces, Splits spec.value.toList pieces ∧
      (∀ others, Splits spec.value.toList others → others = pieces) ∧
      ∀ m value, expand spec.value m = some value ↔
        (∀ p ∈ pieces, p.IsAdmitted m) ∧
          value = String.ofList (pieces.flatMap (Piece.value m))) ∧
    (∀ limit front back table c token m,
      RuleTable.ofRules limit (front ++ spec.rule :: back) = .ok table →
      (∀ r ∈ front, ∀ c, r.compile limit = .ok c → c.matcher.accept token = none) →
      spec.rule.compile limit = .ok c → c.matcher.accept token = some m →
        table.dispatch token = some ⟨front.length, (expand spec.value m).elim [] fun value =>
          [⟨Css.Identifier.classSelector token, spec.layer.getD .components,
            .singleton spec.property value⟩]⟩) ∧
    ∀ text m, expand (quote text) m = some text := by
  refine ⟨?_, ?_, expand_quote⟩
  · obtain ⟨pieces, hpieces⟩ := exists_splits spec.value.toList
    exact ⟨pieces, hpieces, fun _ => hpieces.unique, fun _ _ => expand_eq_some_iff hpieces⟩
  · intro limit front back table c token m htable hfront hcompile hm
    apply RuleTable.dispatch_of_front htable hfront
    intro c' hcompile'
    obtain rfl := Except.ok.inj (hcompile.symm.trans hcompile')
    exact fragments?_of_accept hcompile hm

theorem RuleSpec.value_exact_price :
    ∃ table, RuleTable.ofRules none
        [RuleSpec.rule ⟨"price", "p-(.+)", "--price", "'$$$1'", none⟩] = .ok table ∧
      table.dispatch "p-5" = some ⟨0, [⟨".p-5", .components, .singleton "--price" "'$5'"⟩]⟩ ∧
      table.dispatch "p-1/2" = some ⟨0, []⟩ := by
  let e : Regex.Expr := .sequence
    [.look .textStart, .set (.ofChar 'p'), .set (.ofChar '-'),
      .capture 1 (.repetition 1 none false (.set (Regex.dotSet {}))), .look .textEnd]
  let c : CompiledRule := ⟨"price", .pattern "^(?:p-(.+))$" ⟨1, 1, e.program⟩, .components,
    (RuleSpec.rule ⟨"price", "p-(.+)", "--price", "'$$$1'", none⟩).output⟩
  have hcompile : (RuleSpec.rule ⟨"price", "p-(.+)", "--price", "'$$$1'", none⟩).compile none =
      .ok c := rfl
  have hplain : c.matcher.accept "p-5" = some ⟨"p-5", [some "5"]⟩ := by cbv
  have hslash : c.matcher.accept "p-1/2" = some ⟨"p-1/2", [some "1/2"]⟩ := by cbv
  obtain ⟨table, htable⟩ := RuleTable.exists_ofRules_iff.2
    (List.forall_mem_singleton.2 ⟨c, hcompile⟩)
  have hdispatch := (RuleSpec.value_exact ⟨"price", "p-(.+)", "--price", "'$$$1'", none⟩).2.1
    none [] [] table c
  refine ⟨table, htable, ?_, ?_⟩
  · rw [hdispatch "p-5" _ htable (by simp) hcompile hplain]
    rfl
  · rw [hdispatch "p-1/2" _ htable (by simp) hcompile hslash]
    rfl

end UtilityCss
