import UtilityCss.Proofs.Regex.Quote
import UtilityCss.Proofs.Rule.Anchored
import UtilityCss.Proofs.Text.Blank
import UtilityCss.Rule.BuiltIn

/-!
The language of a family: the tokens made of the stem, a dash and a piece of an identifier, which is
what the first group captures. The stem is quoted, so it may be any text.
-/
namespace UtilityCss

namespace Rule

open Regex
open Unicode (CharSet)

def suffixItems : ClassSet :=
  .union (.union (.union (.union (.range ⟨'A', false⟩ ⟨'Z', false⟩) (.range ⟨'a', false⟩ ⟨'z', false⟩))
    (.range ⟨'0', false⟩ ⟨'9', false⟩)) (.literal ⟨'_', false⟩)) (.literal ⟨'-', false⟩)

def suffixSet : CharSet :=
  ((((⟨[(65, 90)]⟩ : CharSet).union ⟨[(97, 122)]⟩).union ⟨[(48, 57)]⟩).union (.ofChar '_')).union
    (.ofChar '-')

theorem contains_suffixSet {c : Char} : suffixSet.contains c ↔ Css.Identifier.isFragmentChar c := by
  have hrange : ∀ low high, CharSet.contains ⟨[(low, high)]⟩ c ↔ low ≤ c.toNat ∧ c.toNat ≤ high := by
    intro low high
    unfold CharSet.contains
    simp [CharSet.containsCode]
  have hchar : Css.Identifier.isFragmentChar c ↔
      (((65 ≤ c.toNat ∧ c.toNat ≤ 90) ∨ (97 ≤ c.toNat ∧ c.toNat ≤ 122)) ∨
        (48 ≤ c.toNat ∧ c.toNat ≤ 57)) ∨ c = '-' ∨ c = '_' := by
    simp only [Css.Identifier.isFragmentChar, Bool.or_eq_true, decide_eq_true_eq,
      Text.isAlphanum_iff, or_assoc]
  rw [hchar]
  simp only [suffixSet, CharSet.contains_union, CharSet.contains_ofChar, hrange, or_assoc,
    or_comm (a := c = '-')]

def suffixExpr : Expr := .capture 1 (.repetition 1 none false (.set suffixSet))

def familyExpr (stem : List Char) : Expr :=
  .sequence ((stem ++ ['-']).map (fun c => Expr.set (.ofChar c)) ++ [suffixExpr])

def suffixTokens : List Regex.Token :=
  [.opening (.capture none), .atom (.bracketed false suffixItems), .repetition 1 none false, .closing]

theorem toList_familyPattern (stem : String) :
    (String.ofList (quote stem.toList) ++ "-(" ++ suffixPattern ++ ")").toList =
      quote stem.toList ++ "-([A-Za-z0-9_-]+)".toList := by
  simp [suffixPattern]

theorem read_suffix {r : Reader} (h : r.Idle) (hclasses : r.classes = []) :
    "-([A-Za-z0-9_-]+)".toList.foldlM Reader.step r =
      .ok { r with tokens := (literals ['-'] ++ suffixTokens).reverse ++ r.tokens } := by
  obtain ⟨mode, comment, extended, saved, classes, tokens⟩ := r
  obtain ⟨rfl, rfl, rfl⟩ := h
  obtain rfl : classes = [] := hclasses
  rfl

theorem tokens_family (stem : List Char) :
    Regex.Token.ofText ("^(?:".toList ++ ((quote stem ++ "-([A-Za-z0-9_-]+)".toList) ++
        ")$".toList)) =
      .ok ([.atom .lineStart, .opening (.scoped [])] ++
        (literals stem ++ (literals ['-'] ++ (suffixTokens ++ [.closing, .atom .lineEnd])))) := by
  have hidle : (Reader.within [false] Reader.groupTokens {}).Idle := ⟨rfl, rfl, rfl⟩
  have hidle' : ∀ tokens, Reader.Idle
      { Reader.within [false] Reader.groupTokens {} with tokens } := fun _ => ⟨rfl, rfl, rfl⟩
  rw [Regex.Token.ofText, foldlM_append_of_ok Reader.read_opening, List.append_assoc,
    foldlM_append_of_ok (Reader.read_quote stem hidle),
    foldlM_append_of_ok (read_suffix (hidle' _) rfl)]
  refine (Reader.finish_closing rfl rfl).trans ?_
  simp [Reader.within, Reader.groupTokens]

def suffixPart : Part := ⟨suffixExpr, 4, true⟩

def familyFrame (stem : List Char) : Frame :=
  { parts := suffixPart :: literalPart '-' :: (stem.map literalPart).reverse }

theorem build_stem (stem : List Char) :
    (literals stem).foldlM Builder.step (Builder.within [Builder.around] {}) =
      .ok (Builder.within [Builder.around]
        { frame := { parts := (stem.map literalPart).reverse } }) := by
  rw [run_literals stem rfl]
  simp [Builder.within]

theorem build_suffix (stem : List Char) :
    (literals ['-'] ++ (suffixTokens ++ [Regex.Token.closing, .atom .lineEnd])).foldlM Builder.step
        (Builder.within [Builder.around] { frame := { parts := (stem.map literalPart).reverse } }) =
      .ok ⟨(Builder.around.push (familyFrame stem).close).push ⟨.look .textEnd, 0, true⟩,
        [], 1, []⟩ := rfl

theorem level_literals (text : List Char) (p : Part) :
    Part.level (text.map literalPart ++ [p]) = p.height + 1 := by
  unfold Part.level
  congr 1
  induction text with
  | nil => simp
  | cons c rest ih => simpa [literalPart] using ih

theorem sequence_of_two_le {parts : List Part} (h : 2 ≤ parts.length) :
    Part.sequence parts = ⟨.sequence (parts.map Part.expr), Part.level parts, true⟩ := by
  match parts, h with
  | p :: q :: rest, _ => rfl

theorem close_familyFrame (stem : List Char) :
    (familyFrame stem).close = ⟨familyExpr stem, 6, true⟩ := by
  have hparts : (familyFrame stem).parts.reverse =
      (stem ++ ['-']).map literalPart ++ [suffixPart] := by
    simp [familyFrame]
  have hinside : (familyFrame stem).inside = ⟨familyExpr stem, 5, true⟩ := by
    change Part.sequence (familyFrame stem).parts.reverse = _
    rw [hparts, sequence_of_two_le (by simp), level_literals, familyExpr, List.map_append,
      List.map_map]
    rfl
  unfold Frame.close
  rw [hinside]
  rfl

theorem ofText_family (stem : List Char) :
    Expr.ofText ("^(?:".toList ++ ((quote stem ++ "-([A-Za-z0-9_-]+)".toList) ++ ")$".toList)) =
      .ok (familyExpr stem).anchored := by
  rw [Expr.ofText, tokens_family, ok_bind, Expr.ofTokens, foldlM_append_of_ok Builder.run_opening,
    foldlM_append_of_ok (build_stem stem), build_suffix, ok_bind]
  have hlow : ¬ 7 > Builder.heightLimit := by decide
  simp [Builder.finish, Builder.inside_around, close_familyFrame, hlow]

theorem matches_suffixExpr {text : Array Char} {a b : Cursor} :
    suffixExpr.Matches text a b ↔
      ∃ suffix : List Char, suffix ≠ [] ∧ suffix.all Css.Identifier.isFragmentChar ∧
        a.rest text = suffix ++ b.rest text ∧
        b = ⟨a.position + suffix.length,
          (3, a.position + suffix.length) :: (2, a.position) :: a.slots⟩ := by
  change (∃ c, (∃ n, 1 ≤ n ∧ (∀ m ∈ none, n ≤ Nat.max 1 m) ∧
    Iterated ((Expr.set suffixSet).Matches text) n (a.save 2) c) ∧ b = c.save 3) ↔ _
  simp only [Expr.iterated_set, Passes]
  constructor
  · rintro ⟨_, ⟨n, hmin, -, suffix, rfl, hall, hrest, rfl⟩, rfl⟩
    refine ⟨suffix, List.length_pos_iff.1 hmin, ?_, hrest, rfl⟩
    exact List.all_eq_true.2 fun c hc => contains_suffixSet.1 (hall c hc)
  · rintro ⟨suffix, hne, hall, hrest, rfl⟩
    have hset : ∀ c ∈ suffix, suffixSet.contains c := fun c hc =>
      contains_suffixSet.2 (List.all_eq_true.1 hall c hc)
    exact ⟨⟨a.position + suffix.length, (2, a.position) :: a.slots⟩,
      ⟨suffix.length, List.length_pos_iff.2 hne, by simp, suffix, rfl, hset, hrest, rfl⟩, rfl⟩

theorem matches_familyExpr {stem : List Char} {text : Array Char} {a b : Cursor} :
    (familyExpr stem).Matches text a b ↔
      ∃ suffix : List Char, suffix ≠ [] ∧ suffix.all Css.Identifier.isFragmentChar ∧
        a.rest text = stem ++ '-' :: (suffix ++ b.rest text) ∧
        b = ⟨a.position + (stem.length + 1) + suffix.length,
          (3, a.position + (stem.length + 1) + suffix.length) ::
            (2, a.position + (stem.length + 1)) :: a.slots⟩ := by
  rw [familyExpr, Expr.matches_sequence, Expr.matchesAll_append]
  simp only [Expr.matchesAll_literals, Expr.matchesAll_singleton, matches_suffixExpr, Passes,
    List.length_append, List.length_singleton]
  constructor
  · rintro ⟨_, ⟨hstem, rfl⟩, suffix, hne, hall, hrest, rfl⟩
    refine ⟨suffix, hne, hall, ?_, rfl⟩
    rw [hstem, hrest, List.append_assoc]
    rfl
  · rintro ⟨suffix, hne, hall, hrest, rfl⟩
    have hbehind : Cursor.rest text ⟨a.position + (stem.length + 1), a.slots⟩ =
        suffix ++ Cursor.rest text ⟨a.position + (stem.length + 1) + suffix.length,
          (3, a.position + (stem.length + 1) + suffix.length) ::
            (2, a.position + (stem.length + 1)) :: a.slots⟩ := by
      have hdrop := congrArg (List.drop (stem.length + 1)) hrest
      simpa [Cursor.rest, List.drop_append, List.drop_eq_nil_of_le (Nat.le_succ stem.length)]
        using hdrop
    refine ⟨_, ⟨?_, rfl⟩, suffix, hne, hall, hbehind, rfl⟩
    rw [hbehind, List.append_assoc]
    exact hrest

theorem matches_family_whole {stem token : List Char} {slots : List (Nat × Nat)} :
    (familyExpr stem).Matches token.toArray ⟨0, []⟩ ⟨token.length, slots⟩ ↔
      ∃ suffix : List Char, suffix ≠ [] ∧ suffix.all Css.Identifier.isFragmentChar ∧
        token = stem ++ '-' :: suffix ∧
        slots = [(3, token.length), (2, stem.length + 1)] := by
  have hstart : Cursor.rest token.toArray ⟨0, []⟩ = token := rfl
  have hend : Cursor.rest token.toArray ⟨token.length, slots⟩ = [] := by
    simp [Cursor.rest]
  rw [matches_familyExpr, hstart, hend]
  simp only [List.append_nil, Cursor.mk.injEq, Nat.zero_add]
  constructor
  · rintro ⟨suffix, hne, hall, htoken, hlength, hslots⟩
    exact ⟨suffix, hne, hall, htoken, hlength ▸ hslots⟩
  · rintro ⟨suffix, hne, hall, htoken, hslots⟩
    have hlength : token.length = stem.length + 1 + suffix.length := by
      simp [htoken]
      omega
    exact ⟨suffix, hne, hall, htoken, hlength, hlength ▸ hslots⟩

theorem indices_anchored_family (stem : List Char) : (familyExpr stem).anchored.indices = [1] := by
  rw [Expr.indices_anchored, familyExpr, Expr.indices_sequence, List.flatMap_append,
    List.flatMap_map]
  simp [suffixExpr, Expr.indices]

theorem lastCapture_anchored_family (stem : List Char) :
    (familyExpr stem).anchored.lastCapture = 1 := by
  have hle : ∀ n, (familyExpr stem).anchored.lastCapture ≤ n ↔ 1 ≤ n := by
    intro n
    rw [Expr.lastCapture_le_iff, indices_anchored_family, List.forall_mem_singleton]
  exact Nat.le_antisymm ((hle 1).2 (Nat.le_refl 1)) ((hle _).1 (Nat.le_refl _))

theorem group_suffix {stem suffix : List Char} :
    group (stem ++ '-' :: suffix).toArray
        [(3, (stem ++ '-' :: suffix).length), (2, stem.length + 1)] 1 = some suffix := by
  have htext : ((stem ++ '-' :: suffix).toArray.extract (stem.length + 1)
      (stem ++ '-' :: suffix).length).toList = suffix := by
    simp [List.extract, List.drop_append, List.drop_eq_nil_of_le (Nat.le_succ stem.length)]
    omega
  change some _ = _
  rw [htext]

variable {limit : Option Nat} {name stem property target : String} {c : CompiledRule}

/-- A family accepts the tokens that go on from its stem with a dash and a piece of an identifier,
and hands that piece on. -/
theorem accept_variableFamily
    (h : (variableFamily name stem property target).compile limit = .ok c) {token : String}
    {m : RuleMatch} :
    c.matcher.accept token = some m ↔
      ∃ suffix : String, Css.Identifier.isFragment suffix ∧ token = stem ++ "-" ++ suffix ∧
        m = ⟨token, [some suffix]⟩ := by
  obtain ⟨regex, hregex, -, hc⟩ := compile_pattern rfl h
  rw [toList_anchored, toList_familyPattern] at hregex
  obtain ⟨whole, hwhole, hlimit⟩ := bind_eq_ok.1 hregex
  -- The expression is known for every stem, so the search is for just that expression.
  obtain rfl := Except.ok.inj ((ofText_family stem.toList).symm.trans hwhole)
  obtain rfl := ofExpr_eq_ok hlimit
  have htokens : ∀ suffix : List Char, token.toList = stem.toList ++ '-' :: suffix ↔
      token = stem ++ "-" ++ String.ofList suffix := by
    intro suffix
    rw [← String.toList_inj]
    simp
  have hfound : ∀ slots, firstMatch (familyExpr stem.toList).anchored.program
        token.toList.toArray = some slots → ∃ suffix : List Char, suffix ≠ [] ∧
      suffix.all Css.Identifier.isFragmentChar ∧ token.toList = stem.toList ++ '-' :: suffix ∧
        group token.toList.toArray slots 1 = some suffix := by
    intro slots hslots
    obtain ⟨suffix, hne, hall, htoken, rfl⟩ :=
      matches_family_whole.1 (Expr.firstMatch_anchored hslots)
    exact ⟨suffix, hne, hall, htoken, by rw [htoken]; exact group_suffix⟩
  rw [hc]
  simp only [CompiledMatcher.accept, captures, lastCapture_anchored_family, Option.map_map,
    Option.map_eq_some_iff]
  constructor
  · rintro ⟨slots, hslots, rfl⟩
    obtain ⟨suffix, hne, hall, htoken, hgroup⟩ := hfound slots hslots
    refine ⟨String.ofList suffix, ?_, (htokens suffix).1 htoken, ?_⟩
    · simpa [Css.Identifier.isFragment, hne] using hall
    · simp [hgroup]
  · rintro ⟨suffix, hfragment, htoken, rfl⟩
    have htoken' : token.toList = stem.toList ++ '-' :: suffix.toList := by
      rw [htokens, String.ofList_toList]
      exact htoken
    have hsuffix : suffix.toList ≠ [] ∧ suffix.toList.all Css.Identifier.isFragmentChar := by
      simpa [Css.Identifier.isFragment] using hfragment
    have hwhole : (familyExpr stem.toList).MatchesWhole token.toList :=
      ⟨_, matches_family_whole.2 ⟨suffix.toList, hsuffix.1, hsuffix.2, htoken', rfl⟩⟩
    obtain ⟨slots, hslots⟩ :=
      Option.isSome_iff_exists.1 (Expr.isSome_firstMatch_anchored.2 hwhole)
    obtain ⟨found, -, -, hsame, hgroup⟩ := hfound slots hslots
    obtain rfl : found = suffix.toList := by
      simpa [htoken'] using hsame.symm
    exact ⟨slots, hslots, by simp [hgroup]⟩

theorem captureCount_anchored_family (stem : List Char) :
    (familyExpr stem).anchored.captureCount = 1 := by
  rw [← Expr.length_indices, indices_anchored_family, List.length_singleton]

theorem exists_compile_variableFamily {regex : Regex}
    (h : ofExpr limit (familyExpr stem.toList).anchored = .ok regex) :
    ∃ c, (variableFamily name stem property target).compile limit = .ok c := by
  have hregex : Regex.ofText limit (anchored (String.ofList (quote stem.toList) ++ "-(" ++
      suffixPattern ++ ")")).toList = .ok regex := by
    rw [toList_anchored, toList_familyPattern, Regex.ofText, ofText_family, ok_bind, h]
  have hgroups : ¬ regex.groupCount < 1 := by
    rw [ofExpr_eq_ok h, Nat.not_lt]
    exact (captureCount_anchored_family stem.toList).ge
  have hnonempty : (String.ofList (quote stem.toList) ++ "-(" ++ suffixPattern ++ ")").isEmpty =
      false := by
    rw [Bool.eq_false_iff, ne_eq, String.isEmpty_iff, ← String.toList_inj, toList_familyPattern]
    simp
  simp only [compile, variableFamily, hnonempty, hregex, hgroups, Bool.false_eq_true, if_false]
  exact ⟨_, rfl⟩

def familyFragment (property target token suffix : String) : Css.Fragment where
  selector := Css.Identifier.classSelector token
  layer := .components
  declarations := .singleton property ("var(--" ++ target ++ "-" ++ suffix ++ ")")

theorem fragments?_variableFamily
    (h : (variableFamily name stem property target).compile limit = .ok c) {token : String}
    {fragments : List Css.Fragment} :
    c.fragments? token = some fragments ↔
      ∃ suffix : String, Css.Identifier.isFragment suffix ∧ token = stem ++ "-" ++ suffix ∧
        fragments = [familyFragment property target token suffix] := by
  obtain ⟨-, hlayer, houtput, -⟩ := compile_eq_ok h
  have hgives : ∀ suffix selector, (c.output ⟨token, [some suffix]⟩ selector).fragments selector
      c.layer = [⟨selector, .components,
        .singleton property ("var(--" ++ target ++ "-" ++ suffix ++ ")")⟩] := by
    intro suffix selector
    rw [hlayer, houtput]
    rfl
  simp only [CompiledRule.fragments?, Option.map_eq_some_iff, accept_variableFamily h]
  constructor
  · rintro ⟨_, ⟨suffix, hfragment, htoken, rfl⟩, rfl⟩
    exact ⟨suffix, hfragment, htoken, hgives suffix _⟩
  · rintro ⟨suffix, hfragment, htoken, rfl⟩
    exact ⟨_, ⟨suffix, hfragment, htoken, rfl⟩, hgives suffix _⟩

end Rule

namespace RuleTable

open Rule

/-- The table of one family: it is never in error unless room is short, and dispatches the tokens
made of the stem, a dash and a piece of an identifier, each to what that piece stands for. -/
theorem variableFamily_language (name stem property target : String) :
    (∃ table, ofRules none [variableFamily name stem property target] = .ok table) ∧
    ∀ limit table, ofRules limit [variableFamily name stem property target] = .ok table →
      ∀ token,
        ((table.dispatch token).isSome ↔
          ∃ suffix, Css.Identifier.isFragment suffix ∧ token = stem ++ "-" ++ suffix) ∧
        ∀ suffix, Css.Identifier.isFragment suffix → token = stem ++ "-" ++ suffix →
          (∀ other, token = stem ++ "-" ++ other → other = suffix) ∧
          table.dispatch token = some ⟨0, [⟨Css.Identifier.classSelector token, .components,
            .singleton property ("var(--" ++ target ++ "-" ++ suffix ++ ")")⟩]⟩ := by
  constructor
  · have hroom : Regex.ofExpr none (familyExpr stem.toList).anchored = .ok _ := rfl
    have hcompile : ∃ c, (variableFamily name stem property target).compile none = .ok c :=
      exists_compile_variableFamily hroom
    exact exists_ofRules_iff.2 (List.forall_mem_singleton.2 hcompile)
  · intro limit table htable token
    obtain ⟨c, _, hc, hnil, hrules⟩ := List.forall₂_cons_left_iff.1 (ofRules_eq_ok_iff.1 htable)
    obtain rfl := List.forall₂_nil_left_iff.1 hnil
    have hdispatch : table.dispatch token =
        (c.fragments? token).map fun fragments => ⟨0, fragments⟩ := by
      rw [dispatch, hrules, dispatchFrom]
      cases c.fragments? token with
      | none => rfl
      | some fragments => rfl
    have hgives : ∀ suffix, Css.Identifier.isFragment suffix → token = stem ++ "-" ++ suffix →
        c.fragments? token = some [familyFragment property target token suffix] :=
      fun suffix hfragment htoken =>
        (fragments?_variableFamily hc).2 ⟨suffix, hfragment, htoken, rfl⟩
    refine ⟨?_, ?_⟩
    · rw [hdispatch, Option.isSome_map]
      constructor
      · intro h
        obtain ⟨fragments, hfragments⟩ := Option.isSome_iff_exists.1 h
        obtain ⟨suffix, hfragment, htoken, -⟩ := (fragments?_variableFamily hc).1 hfragments
        exact ⟨suffix, hfragment, htoken⟩
      · rintro ⟨suffix, hfragment, htoken⟩
        rw [hgives suffix hfragment htoken]
        rfl
    · intro suffix hfragment htoken
      refine ⟨?_, ?_⟩
      · intro other hother
        have hsame := hother.symm.trans htoken
        simpa [← String.toList_inj] using hsame
      · rw [hdispatch, hgives suffix hfragment htoken]
        rfl

theorem variableFamily_language_meta :
    ∃ table, ofRules none [variableFamily "odd" "a-(b|.*" "--odd" "size"] = .ok table ∧
      table.dispatch "a-(b|.*--x-1" =
        some ⟨0, [⟨".a-\\(b\\|\\.\\*--x-1", .components,
          .singleton "--odd" "var(--size--x-1)"⟩]⟩ ∧
      (table.dispatch "a-b-x").isSome = false := by
  obtain ⟨⟨table, htable⟩, hlanguage⟩ :=
    variableFamily_language "odd" "a-(b|.*" "--odd" "size"
  refine ⟨table, htable, ?_, ?_⟩
  · exact ((hlanguage none table htable "a-(b|.*--x-1").2 "-x-1" (by decide) (by decide)).2
  · rw [Bool.eq_false_iff, ne_eq, (hlanguage none table htable "a-b-x").1]
    rintro ⟨suffix, -, htoken⟩
    simp [← String.toList_inj] at htoken

end RuleTable

end UtilityCss
