import UtilityCss.Proofs.Rule.Anchored
import UtilityCss.Proofs.Rule.Template

/-!
What the arity of a template says. It is the largest of the groups that the value depends on. A rule
gets into a table only if its pattern has that many groups, and then there is a place for each of
them in every match.
-/
namespace UtilityCss

def RuleMatch.clear (m : RuleMatch) : Nat → RuleMatch
  | 0 => { m with token := "" }
  | i + 1 => { m with groups := m.groups.set i none }

theorem RuleMatch.group?_clear_of_ne (m : RuleMatch) {i j : Nat} (h : i ≠ j) :
    (m.clear j).group? i = m.group? i := by
  cases j with
  | zero =>
    obtain ⟨k, rfl⟩ := Nat.exists_eq_succ_of_ne_zero h
    rfl
  | succ j =>
    cases i with
    | zero => rfl
    | succ i =>
      have hne : j ≠ i := fun hij => h (congrArg Nat.succ hij.symm)
      simp only [clear, group?, List.getElem?_set_ne hne]

theorem RuleMatch.group?_clear_self (m : RuleMatch) (i : Nat) :
    ((m.clear i).group? i).getD "" = "" := by
  cases i with
  | zero => rfl
  | succ i =>
    simp only [clear, group?, List.getElem?_set_self']
    cases m.groups[i]? <;> rfl

namespace Template

def Piece.index? : Piece → Option Nat
  | capture digit => some (digitValue digit)
  | _ => none

/-- The value depends on a group: it tells two matches apart that differ in this one alone. -/
def Reads (template : String) (index : Nat) : Prop :=
  ∃ m m' : RuleMatch, (∀ i, i ≠ index → m.group? i = m'.group? i) ∧
    expand template m ≠ expand template m'

variable {rest : List Char}

theorem largestIndex_char {c : Char} (hc : c ≠ '$') :
    largestIndex (c :: rest) = largestIndex rest := by
  rw [largestIndex]
  · intro _ h
    exact absurd h hc
  · intro _ _ h
    exact absurd h hc

theorem largestIndex_capture {digit : Char} (hdigit : digit.isDigit) :
    largestIndex ('$' :: digit :: rest) = max (digitValue digit) (largestIndex rest) := by
  rw [largestIndex, if_pos hdigit]
  exact ne_dollar_of_isDigit hdigit

theorem largestIndex_lone (hnext : ∀ c ∈ rest.head?, c ≠ '$' ∧ ¬ c.isDigit) :
    largestIndex ('$' :: rest) = largestIndex rest := by
  cases rest with
  | nil => rfl
  | cons c rest =>
    obtain ⟨hc, hdigit⟩ := hnext c rfl
    rw [largestIndex, if_neg hdigit]
    exact hc

theorem largestIndex_le_iff {template : List Char} {pieces : List Piece}
    (h : Splits template pieces) {n : Nat} :
    largestIndex template ≤ n ↔ ∀ p ∈ pieces, ∀ i ∈ p.index?, i ≤ n := by
  induction h with
  | nil => simp [largestIndex]
  | char hc _ ih =>
    rw [largestIndex_char hc, ih, List.forall_mem_cons]
    simp [Piece.index?]
  | doubled _ ih =>
    rw [largestIndex, ih, List.forall_mem_cons]
    simp [Piece.index?]
  | capture hdigit _ ih =>
    rw [largestIndex_capture hdigit, Nat.max_le, ih, List.forall_mem_cons]
    simp [Piece.index?]
  | lone hnext _ ih =>
    rw [largestIndex_lone hnext, ih, List.forall_mem_cons]
    simp [Piece.index?]

variable {template : String} {pieces : List Piece} {m m' : RuleMatch}

theorem expand_congr (h : Splits template.toList pieces)
    (hagree : ∀ p ∈ pieces, ∀ i ∈ p.index?, m.group? i = m'.group? i) :
    expand template m = expand template m' := by
  have hadmitted : ∀ p ∈ pieces, p.IsAdmitted m ↔ p.IsAdmitted m' := by
    intro p hp
    cases p with
    | capture digit => rw [Piece.IsAdmitted, hagree _ hp _ rfl, Piece.IsAdmitted]
    | _ => exact Iff.rfl
  have hvalue : pieces.flatMap (Piece.value m) = pieces.flatMap (Piece.value m') := by
    apply List.flatMap_congr
    intro p hp
    cases p with
    | capture digit => rw [Piece.value, hagree _ hp _ rfl, Piece.value]
    | _ => rfl
  apply Option.ext
  intro value
  rw [expand_eq_some_iff h, expand_eq_some_iff h, hvalue, forall₂_congr hadmitted]

def fullMatch (groups : Nat) : RuleMatch := ⟨"a", List.replicate groups (some "a")⟩

theorem group?_fullMatch {groups i : Nat} (h : i ≤ groups) :
    (fullMatch groups).group? i = some "a" := by
  cases i with
  | zero => rfl
  | succ i => simp [fullMatch, RuleMatch.group?, List.getElem?_replicate_of_lt h]

theorem exists_expand_fullMatch (h : Splits template.toList pieces) :
    ∃ value, expand template (fullMatch (arity template)) = some value := by
  refine ⟨_, (expand_eq_some_iff h).2 ⟨?_, rfl⟩⟩
  intro p hp
  cases p with
  | capture digit =>
    have hle := (largestIndex_le_iff h).1 (Nat.le_refl _) _ hp _ rfl
    exact ⟨"a", group?_fullMatch hle, isFragment_iff.1 (by decide)⟩
  | _ => trivial

theorem expand_clear (h : Splits template.toList pieces) {p : Piece} (hp : p ∈ pieces) {index : Nat}
    (hindex : p.index? = some index) (m : RuleMatch) : expand template (m.clear index) = none := by
  rw [Option.eq_none_iff_forall_ne_some]
  intro value hvalue
  have hadmitted := ((expand_eq_some_iff h).1 hvalue).1 p hp
  cases p with
  | capture digit =>
    obtain rfl := Option.some.inj hindex
    obtain ⟨text, htext, hne, -⟩ := hadmitted
    have hself := m.group?_clear_self (digitValue digit)
    rw [htext] at hself
    exact hne hself
  | _ => nomatch hindex

theorem reads_iff (h : Splits template.toList pieces) {index : Nat} :
    Reads template index ↔ ∃ p ∈ pieces, p.index? = some index := by
  constructor
  · rintro ⟨m, m', hagree, hdiffers⟩
    by_contra hnone
    push Not at hnone
    apply hdiffers
    apply expand_congr h
    rintro p hp i hi
    apply hagree
    rintro rfl
    exact hnone p hp hi
  · rintro ⟨p, hp, hindex⟩
    obtain ⟨value, hvalue⟩ := exists_expand_fullMatch h
    have hcleared := expand_clear h hp hindex (fullMatch (arity template))
    refine ⟨fullMatch (arity template), (fullMatch (arity template)).clear index, ?_, ?_⟩
    · exact fun i hi => (RuleMatch.group?_clear_of_ne _ hi).symm
    · rw [hvalue, hcleared]
      nofun

theorem isGreatest_arity (template : String) :
    IsGreatest {index | index = 0 ∨ Reads template index} (arity template) := by
  obtain ⟨pieces, h⟩ := exists_splits template.toList
  have hle : ∀ n, arity template ≤ n ↔ ∀ p ∈ pieces, ∀ i ∈ p.index?, i ≤ n :=
    fun _ => largestIndex_le_iff h
  constructor
  · cases harity : arity template with
    | zero => exact .inl rfl
    | succ n =>
      have hnot : ¬ arity template ≤ n := by omega
      rw [hle] at hnot
      push Not at hnot
      obtain ⟨p, hp, i, hi, hlt⟩ := hnot
      have hmax := (hle _).1 (Nat.le_refl _) p hp i hi
      obtain rfl : i = n + 1 := by omega
      exact .inr ((reads_iff h).2 ⟨p, hp, hi⟩)
  · rintro index (rfl | hreads)
    · exact Nat.zero_le _
    · obtain ⟨p, hp, hindex⟩ := (reads_iff h).1 hreads
      exact (hle _).1 (Nat.le_refl _) p hp index hindex

theorem expand_congr_arity (htoken : m.token = m'.token)
    (hgroups : ∀ i, 1 ≤ i → i ≤ arity template → m.group? i = m'.group? i) :
    expand template m = expand template m' := by
  obtain ⟨pieces, h⟩ := exists_splits template.toList
  apply expand_congr h
  intro p hp i hi
  cases i with
  | zero => exact congrArg some htoken
  | succ i => exact hgroups _ (Nat.succ_pos i) ((largestIndex_le_iff h).1 (Nat.le_refl _) p hp _ hi)

end Template

open Template

theorem CompiledMatcher.length_groups {text token : String} {regex : Regex} {m : RuleMatch}
    (h : (CompiledMatcher.pattern text regex).accept token = some m) :
    m.groups.length = regex.lastGroup := by
  obtain ⟨groups, hgroups, rfl⟩ := Option.map_eq_some_iff.1 h
  obtain ⟨slots, -, rfl⟩ := Option.map_eq_some_iff.1 hgroups
  simp

theorem RuleSpec.compile_missing {spec : RuleSpec} {limit : Option Nat} {regex : Regex}
    (hpattern : spec.pattern.isEmpty = false)
    (hregex : Regex.ofText limit (Rule.anchored spec.pattern).toList = .ok regex)
    (hfew : regex.groupCount < spec.arity) :
    spec.rule.compile limit = .error (.missingGroups spec.name spec.arity regex.groupCount) := by
  simp [Rule.compile, RuleSpec.rule, hpattern, hregex, hfew]

/-- The arity is the largest group that the value depends on, and nothing behind it matters. In a
table, a match has a place for each group up to there, and no more places than the pattern opens
groups. A pattern with fewer groups keeps the rule out of every table, and is what is reported unless
a rule in front of it is in error. -/
theorem RuleSpec.arity_exact (spec : RuleSpec) :
    IsGreatest {index | index = 0 ∨ Reads spec.value index} spec.arity ∧
    (∀ m m' : RuleMatch, m.token = m'.token →
      (∀ i, 1 ≤ i → i ≤ spec.arity → m.group? i = m'.group? i) →
        expand spec.value m = expand spec.value m') ∧
    (∀ limit table extended front back,
      RuleTable.extend limit table (front ++ spec.rule :: back) = .ok extended →
        ∃ c tokens, extended.rules[table.size + front.length]? = some c ∧
          Regex.Token.ofText (Rule.anchored spec.pattern).toList = .ok tokens ∧
          ∀ token m, c.matcher.accept token = some m →
            spec.arity ≤ m.groups.length ∧ m.groups.length ≤ Regex.Builder.opened tokens) ∧
    ∀ limit regex, spec.pattern.isEmpty = false →
      Regex.ofText limit (Rule.anchored spec.pattern).toList = .ok regex →
      regex.groupCount < spec.arity →
        ∀ table front back, (∀ extended,
          RuleTable.extend limit table (front ++ spec.rule :: back) ≠ .ok extended) ∧
          ((∀ f ∈ front, ∃ c, f.compile limit = .ok c) →
            RuleTable.extend limit table (front ++ spec.rule :: back) =
              .error (.missingGroups spec.name spec.arity regex.groupCount)) := by
  refine ⟨isGreatest_arity spec.value, fun _ _ => expand_congr_arity, ?_, ?_⟩
  · intro limit table extended front back hextend
    obtain ⟨c, hc, hcompile⟩ :=
      RuleTable.extend_rule hextend (i := front.length) (r := spec.rule) (by simp)
    obtain ⟨regex, hregex, harity, hmatcher⟩ := Rule.compile_pattern rfl hcompile
    obtain ⟨hcount, tokens, htokens, hlast⟩ := Regex.groupCount_le_lastGroup hregex
    refine ⟨c, tokens, hc, htokens, ?_⟩
    intro token m hm
    rw [hmatcher] at hm
    rw [CompiledMatcher.length_groups hm]
    exact ⟨harity.trans hcount, hlast⟩
  · intro limit regex hpattern hregex hfew table front back
    have hmissing := compile_missing hpattern hregex hfew
    constructor
    · intro extended hextend
      obtain ⟨c, hc⟩ := RuleTable.exists_compile_of_extend hextend (r := spec.rule) (by simp)
      nomatch hmissing.symm.trans hc
    · exact fun hfront => RuleTable.extend_error hfront hmissing

theorem RuleSpec.arity_exact_price :
    expand "$$2$1" ⟨"p-5", [some "5"]⟩ = expand "$$2$1" ⟨"p-5", [some "5", some "6"]⟩ ∧
    (∃ table c m, RuleTable.ofRules none
        [RuleSpec.rule ⟨"price", "p-(.+)", "--price", "$$2$1", none⟩] = .ok table ∧
      table.rules[0]? = some c ∧ c.matcher.accept "p-5" = some m ∧ m.groups.length = 1) ∧
    RuleTable.ofRules none [RuleSpec.rule ⟨"price", "p-(.+)", "--price", "$1$2", none⟩] =
      .error (.missingGroups "price" 2 1) := by
  let e : Regex.Expr := .sequence
    [.look .textStart, .set (.ofChar 'p'), .set (.ofChar '-'),
      .capture 1 (.repetition 1 none false (.set (Regex.dotSet {}))), .look .textEnd]
  have hregex : Regex.ofText none (Rule.anchored "p-(.+)").toList = .ok ⟨1, 1, e.program⟩ := rfl
  obtain ⟨-, hcongr, hplaces, -⟩ := arity_exact ⟨"price", "p-(.+)", "--price", "$$2$1", none⟩
  obtain ⟨-, -, -, hmissing⟩ := arity_exact ⟨"price", "p-(.+)", "--price", "$1$2", none⟩
  refine ⟨hcongr _ _ rfl ?_, ?_, ?_⟩
  · intro i hlow hhigh
    obtain rfl : i = 1 := Nat.le_antisymm hhigh hlow
    rfl
  · let c : CompiledRule := ⟨"price", .pattern "^(?:p-(.+))$" ⟨1, 1, e.program⟩, .components,
      (RuleSpec.rule ⟨"price", "p-(.+)", "--price", "$$2$1", none⟩).output⟩
    have hm : c.matcher.accept "p-5" = some ⟨"p-5", [some "5"]⟩ := by cbv
    have htable : RuleTable.ofRules none
        [RuleSpec.rule ⟨"price", "p-(.+)", "--price", "$$2$1", none⟩] = .ok ⟨[c]⟩ := rfl
    obtain ⟨c', _, hc', -, hlength⟩ := hplaces none .empty _ [] [] htable
    obtain rfl : c = c' := Option.some.inj hc'
    obtain ⟨hlow, -⟩ := hlength "p-5" _ hm
    exact ⟨_, c, _, htable, rfl, hm, Nat.le_antisymm (by decide) hlow⟩
  · exact (hmissing none _ rfl hregex (by decide) .empty [] []).2 (by simp)

end UtilityCss
