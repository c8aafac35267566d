import Mathlib.Data.List.Basic
import UtilityCss.Proofs.OrderedMap
import UtilityCss.Proofs.Token.Slug
import UtilityCss.Token.Item

/-!
Slugs by the words of a name. A name is read once, from left to right; what comes out are its words
of letters and digits, joined by single dashes, whatever else stands in them and between them.
-/
namespace UtilityCss.Token

/-- What stands between the breaks of a name when all but letters, digits and breaks is left out. -/
def pieces (name : List Char) : List (List Char) :=
  (name.filter fun c => c.isAlphanum || isWordBreak c).splitOnP isWordBreak

def wordsOf (pieces : List (List Char)) : List (List Char) :=
  (pieces.filter fun w => !w.isEmpty).map (List.map Char.toLower)

def words (name : List Char) : List (List Char) := wordsOf (pieces name)

def isSlugChar (c : Char) : Bool := c.isLower || c.isDigit

/-- Words of lower-case letters and digits with single dashes between them. -/
inductive IsSlug : List Char → Prop
  | word {w} (hne : w ≠ []) (h : w.all isSlugChar) : IsSlug w
  | cons {w rest} (hne : w ≠ []) (h : w.all isSlugChar) (hrest : IsSlug rest) :
    IsSlug (w ++ '-' :: rest)

variable {c : Char} {name : List Char}

theorem not_isWordBreak_of_isAlphanum (h : c.isAlphanum) : isWordBreak c = false := by
  rw [Bool.eq_false_iff]
  intro hbreak
  simp only [isWordBreak, Text.isBlank_of_isAlphanum h, Bool.or_false, Bool.or_eq_true,
    decide_eq_true_eq] at hbreak
  obtain rfl | rfl := hbreak <;> exact absurd h (by decide)

theorem pieces_cons_alphanum (h : c.isAlphanum) (name : List Char) :
    pieces (c :: name) = (pieces name).modifyHead (List.cons c) := by
  rw [pieces, List.filter_cons_of_pos (by simp [h]), List.splitOnP_cons_eq_if_modifyHead,
    not_isWordBreak_of_isAlphanum h]
  rfl

theorem pieces_append_break (h : isWordBreak c) (front back : List Char) :
    pieces (front ++ c :: back) = pieces front ++ pieces back := by
  rw [pieces, List.filter_append, List.filter_cons_of_pos (by simp [h]),
    List.splitOnP_append_cons _ _ h, pieces, pieces]

theorem pieces_cons_break (h : isWordBreak c) (name : List Char) :
    pieces (c :: name) = [] :: pieces name :=
  pieces_append_break h [] name

theorem pieces_cons_other (h : c.isAlphanum = false) (hbreak : isWordBreak c = false)
    (name : List Char) : pieces (c :: name) = pieces name := by
  rw [pieces, List.filter_cons_of_neg (by simp [h, hbreak]), pieces]

theorem pieces_ne_nil (name : List Char) : pieces name ≠ [] := List.splitOnP_ne_nil _ _

theorem mem_of_mem_pieces {w : List Char} (hw : w ∈ pieces name) (hc : c ∈ w) :
    c ∈ name ∧ c.isAlphanum := by
  induction name generalizing w with
  | nil =>
    obtain rfl : w = [] := List.mem_singleton.1 hw
    nomatch hc
  | cons d rest ih =>
    by_cases halphanum : d.isAlphanum
    · obtain ⟨first, others, hpieces⟩ := List.exists_cons_of_ne_nil (pieces_ne_nil rest)
      rw [pieces_cons_alphanum halphanum, hpieces, List.modifyHead_cons] at hw
      rw [hpieces] at ih
      obtain rfl | hothers := List.mem_cons.1 hw
      · obtain rfl | hfirst := List.mem_cons.1 hc
        · exact ⟨List.mem_cons_self, halphanum⟩
        · exact (ih List.mem_cons_self hfirst).imp_left (List.mem_cons_of_mem _)
      · exact (ih (List.mem_cons_of_mem _ hothers) hc).imp_left (List.mem_cons_of_mem _)
    by_cases hbreak : isWordBreak d
    · rw [pieces_cons_break hbreak] at hw
      obtain rfl | hrest := List.mem_cons.1 hw
      · nomatch hc
      · exact (ih hrest hc).imp_left (List.mem_cons_of_mem _)
    · rw [pieces_cons_other (by simpa using halphanum) (by simpa using hbreak)] at hw
      exact (ih hw hc).imp_left (List.mem_cons_of_mem _)

theorem wordsOf_cons_nil (pieces : List (List Char)) : wordsOf ([] :: pieces) = wordsOf pieces := rfl

theorem wordsOf_cons {w : List Char} (h : w ≠ []) (pieces : List (List Char)) :
    wordsOf (w :: pieces) = w.map Char.toLower :: wordsOf pieces := by
  simp [wordsOf, h]

theorem words_append_break (h : isWordBreak c) (front back : List Char) :
    words (front ++ c :: back) = words front ++ words back := by
  simp only [words, wordsOf, pieces_append_break h, List.filter_append, List.map_append]

theorem words_append_breaks (name : List Char) {tail : List Char} (h : tail.all isWordBreak) :
    words (name ++ tail) = words name := by
  induction tail generalizing name with
  | nil => rw [List.append_nil]
  | cons c tail ih =>
    obtain ⟨hc, htail⟩ := Bool.and_eq_true_iff.1 h
    rw [words_append_break hc, ← List.nil_append tail, ih [] htail]
    exact List.append_nil _

theorem words_breaks_append (name : List Char) {lead : List Char} (h : lead.all isWordBreak) :
    words (lead ++ name) = words name := by
  induction lead with
  | nil => rfl
  | cons c lead ih =>
    obtain ⟨hc, hlead⟩ := Bool.and_eq_true_iff.1 h
    rw [List.cons_append, words, pieces_cons_break hc, wordsOf_cons_nil]
    exact ih hlead

theorem mem_words {w : List Char} (h : w ∈ words name) :
    w ≠ [] ∧ w.all isSlugChar ∧ ∃ c ∈ name, c.isAlphanum := by
  obtain ⟨v, hv, rfl⟩ := List.mem_map.1 h
  obtain ⟨hpiece, hne⟩ := List.mem_filter.1 hv
  obtain ⟨c, rest, rfl⟩ := List.exists_cons_of_ne_nil (l := v) (by simpa using hne)
  refine ⟨by simp, ?_, c, mem_of_mem_pieces hpiece List.mem_cons_self⟩
  rw [List.all_map, List.all_eq_true]
  intro d hd
  exact Text.isLower_or_isDigit_toLower (mem_of_mem_pieces hpiece hd).2

/-- What a name adds to a slug, first character first. The flag tells whether the slug ends in a
dash. -/
def written : Bool → List Char → List Char
  | _, [] => []
  | dashed, c :: rest =>
    if c.isAlphanum then c.toLower :: written false rest
    else if isWordBreak c && !dashed then '-' :: written true rest
    else written dashed rest

theorem foldl_slugStep (name slug : List Char) :
    name.foldl slugStep slug = (written (slug.head? == some '-') name).reverse ++ slug := by
  induction name generalizing slug with
  | nil => rfl
  | cons c rest ih =>
    rw [List.foldl_cons, ih, slugStep, written]
    by_cases halphanum : c.isAlphanum
    · have hdash : (some c.toLower == some '-') = false :=
        beq_false_of_ne fun h => toLower_ne_dash halphanum (Option.some.inj h)
      simp [halphanum, List.head?_cons, hdash]
    · cases hdashed : slug.head? == some '-' with
      | true => simp [halphanum, hdashed, bne]
      | false => cases hbreak : isWordBreak c <;> simp [halphanum, hdashed, bne]

def joinWords (words : List (List Char)) : List Char := ['-'].intercalate words

theorem joinWords_cons (w : List Char) {rest : List (List Char)} (h : rest ≠ []) :
    joinWords (w :: rest) = w ++ '-' :: joinWords rest := by
  rw [joinWords, List.intercalate_cons_of_ne_nil h, List.append_assoc]
  rfl

def Begins (text : List Char) (words : List (List Char)) : Prop :=
  ∃ tail, tail.all (· = '-') ∧ text = joinWords words ++ tail

def Continues (text first : List Char) (rest : List (List Char)) : Prop :=
  ∃ gap back, gap.all (· = '-') ∧ (rest = [] ∨ gap = ['-']) ∧ Begins back rest ∧
    text = first ++ gap ++ back

theorem Continues.begins {text first : List Char} {rest : List (List Char)}
    (h : Continues text first rest) : Begins text (first :: rest) := by
  obtain ⟨gap, back, hgap, hrest, ⟨tail, htail, rfl⟩, rfl⟩ := h
  by_cases hnil : rest = []
  · subst hnil
    refine ⟨gap ++ tail, ?_, ?_⟩
    · rw [List.all_append, hgap, htail]
      rfl
    · simp [joinWords]
  · obtain rfl := hrest.resolve_left hnil
    refine ⟨tail, htail, ?_⟩
    rw [joinWords_cons first hnil]
    simp

theorem Continues.cons {text first : List Char} {rest : List (List Char)}
    (h : Continues text first rest) (c : Char) : Continues (c :: text) (c :: first) rest := by
  obtain ⟨gap, back, hgap, hrest, hback, rfl⟩ := h
  exact ⟨gap, back, hgap, hrest, hback, rfl⟩

/-- Behind a dash a slug goes on with the words of the name. Elsewhere the first piece of the name
goes on with the word in front of it. -/
theorem written_eq (name : List Char) :
    Begins (written true name) (words name) ∧
    ∃ first rest, pieces name = first :: rest ∧
      Continues (written false name) (first.map Char.toLower) (wordsOf rest) := by
  induction name with
  | nil =>
    have hbegins : Begins [] [] := ⟨[], rfl, rfl⟩
    exact ⟨hbegins, [], [], rfl, [], [], rfl, .inl rfl, hbegins, rfl⟩
  | cons c name ih =>
    obtain ⟨hbegins, first, rest, hpieces, hcontinues⟩ := ih
    by_cases halphanum : c.isAlphanum
    · have hpieces' : pieces (c :: name) = (c :: first) :: rest := by
        rw [pieces_cons_alphanum halphanum, hpieces, List.modifyHead_cons]
      have hwritten : ∀ dashed, written dashed (c :: name) = c.toLower :: written false name := by
        intro dashed
        rw [written, if_pos halphanum]
      have hcontinues' := hcontinues.cons c.toLower
      refine ⟨?_, c :: first, rest, hpieces', hwritten false ▸ hcontinues'⟩
      rw [words, hpieces', wordsOf_cons (List.cons_ne_nil c first), hwritten true]
      exact hcontinues'.begins
    by_cases hbreak : isWordBreak c
    · have hpieces' := pieces_cons_break hbreak name
      refine ⟨?_, [], pieces name, hpieces', ['-'], written true name, rfl, .inr rfl, hbegins, ?_⟩
      · rw [words, hpieces', wordsOf_cons_nil, written, if_neg halphanum, hbreak]
        exact hbegins
      · rw [written, if_neg halphanum, hbreak]
        rfl
    · have hwritten : ∀ dashed, written dashed (c :: name) = written dashed name := by
        intro dashed
        rw [written, if_neg halphanum, Bool.eq_false_iff.2 hbreak]
        rfl
      have hpieces' : pieces (c :: name) = pieces name :=
        pieces_cons_other (Bool.eq_false_iff.2 halphanum) (Bool.eq_false_iff.2 hbreak) name
      rw [words, hpieces', hwritten, hwritten]
      exact ⟨hbegins, first, rest, hpieces, hcontinues⟩

theorem isAlphanum_of_isSlugChar (h : isSlugChar c) : c.isAlphanum := by
  have hranges := Text.isLower_or_isDigit_iff.1 h
  rw [Text.isAlphanum_iff]
  omega

theorem not_dash_of_all {w : List Char} (h : w.all isSlugChar) (hc : c ∈ w) :
    (!decide (c = '-')) = true := by
  have hslug := List.all_eq_true.1 h c hc
  rw [Bool.not_eq_true', decide_eq_false_iff_not]
  rintro rfl
  nomatch hslug

theorem IsSlug.ne_nil {s : List Char} (h : IsSlug s) : s ≠ [] := by
  cases h with
  | word hne => exact hne
  | cons => simp

theorem IsSlug.ends {s : List Char} (h : IsSlug s) :
    (s.head?.all fun c => !decide (c = '-')) ∧ s.getLast?.all fun c => !decide (c = '-') := by
  simp only [Option.all_eq_true]
  induction h with
  | word hne h =>
    exact ⟨fun c hc => not_dash_of_all h (List.mem_of_head? hc),
      fun c hc => not_dash_of_all h (List.mem_of_getLast? hc)⟩
  | @cons w rest hne h hrest ih =>
    constructor
    · intro c hc
      rw [List.head?_append_of_ne_nil _ hne] at hc
      exact not_dash_of_all h (List.mem_of_head? hc)
    · intro c hc
      rw [List.getLast?_append_of_ne_nil _ (List.cons_ne_nil _ _),
        List.getLast?_cons_of_ne_nil hrest.ne_nil] at hc
      exact ih.2 c hc

theorem isSlug_joinWords {words : List (List Char)} (hne : words ≠ [])
    (h : ∀ w ∈ words, w ≠ [] ∧ w.all isSlugChar) : IsSlug (joinWords words) := by
  induction words with
  | nil => exact absurd rfl hne
  | cons w rest ih =>
    obtain ⟨⟨hw, hall⟩, hrest⟩ := List.forall_mem_cons.1 h
    by_cases hnil : rest = []
    · subst hnil
      simpa [joinWords] using IsSlug.word hw hall
    · rw [joinWords_cons w hnil]
      exact .cons hw hall (ih hnil hrest)

theorem words_of_all {w : List Char} (hne : w ≠ []) (h : w.all isSlugChar) : words w = [w] := by
  have halphanum : ∀ c ∈ w, c.isAlphanum :=
    fun c hc => isAlphanum_of_isSlugChar (List.all_eq_true.1 h c hc)
  have hkeep : w.filter (fun c => c.isAlphanum || isWordBreak c) = w := by
    rw [List.filter_eq_self]
    intro c hc
    rw [halphanum c hc]
    rfl
  have hlower : w.map Char.toLower = w := by
    rw [List.map_congr_left fun c hc => Text.toLower_eq_self (List.all_eq_true.1 h c hc),
      List.map_id']
  have hpieces : pieces w = [w] := by
    rw [pieces, hkeep]
    exact List.splitOnP_eq_singleton fun c hc => not_isWordBreak_of_isAlphanum (halphanum c hc)
  rw [words, hpieces, wordsOf_cons hne, hlower]
  rfl

theorem words_joinWords {ws : List (List Char)} (h : ∀ w ∈ ws, w ≠ [] ∧ w.all isSlugChar) :
    words (joinWords ws) = ws := by
  induction ws with
  | nil => rfl
  | cons w rest ih =>
    obtain ⟨⟨hne, hall⟩, hrest⟩ := List.forall_mem_cons.1 h
    by_cases hnil : rest = []
    · subst hnil
      simpa [joinWords] using words_of_all hne hall
    · have hdash : isWordBreak '-' := by decide
      rw [joinWords_cons w hnil, words_append_break hdash, words_of_all hne hall, ih hrest]
      rfl

theorem isSlug_words (hne : words name ≠ []) : IsSlug (joinWords (words name)) :=
  isSlug_joinWords hne fun _ h => ⟨(mem_words h).1, (mem_words h).2.1⟩

theorem exists_written_eq (name : List Char) :
    ∃ lead tail, lead.all (· = '-') ∧ tail.all (· = '-') ∧
      written false name = lead ++ joinWords (words name) ++ tail := by
  obtain ⟨-, first, rest, hpieces, hcontinues⟩ := written_eq name
  rw [words, hpieces]
  by_cases hfirst : first = []
  · subst hfirst
    obtain ⟨gap, back, hgap, -, ⟨tail, htail, rfl⟩, hwritten⟩ := hcontinues
    refine ⟨gap, tail, hgap, htail, ?_⟩
    rw [hwritten, wordsOf_cons_nil, List.map_nil, List.nil_append, List.append_assoc]
  · obtain ⟨tail, htail, hwritten⟩ := hcontinues.begins
    rw [wordsOf_cons hfirst]
    exact ⟨[], tail, rfl, htail, hwritten⟩

theorem words_trimBoth (name : List Char) :
    words (Text.trimBoth Text.isBlank name) = words name := by
  have hblanks : ∀ s : List Char, s.all Text.isBlank → s.all isWordBreak := by
    intro s h
    rw [List.all_eq_true] at h ⊢
    intro c hc
    simp [isWordBreak, h c hc]
  obtain ⟨lead, tail, hlead, htail, hname⟩ := Text.exists_trimBoth Text.isBlank name
  conv_rhs => rw [hname]
  rw [words_append_breaks _ (hblanks tail htail), words_breaks_append _ (hblanks lead hlead)]

theorem slugChars_eq (name : List Char) : slugChars name = joinWords (words name) := by
  obtain ⟨lead, tail, hlead, htail, hwritten⟩ :=
    exists_written_eq (Text.trimBoth Text.isBlank name)
  have hfold : ((Text.trimBoth Text.isBlank name).foldl slugStep []).reverse =
      lead ++ joinWords (words name) ++ tail := by
    rw [foldl_slugStep, List.append_nil, List.reverse_reverse, ← words_trimBoth name]
    exact hwritten
  have hends : ((joinWords (words name)).head?.all fun c => !decide (c = '-')) ∧
      (joinWords (words name)).getLast?.all fun c => !decide (c = '-') := by
    by_cases hnil : words name = []
    · rw [hnil]
      exact ⟨rfl, rfl⟩
    · exact (isSlug_words hnil).ends
  rw [slugChars, hfold]
  exact Text.trimBoth_append hlead htail hends.1 hends.2

theorem slugify_eq (name : String) : slugify name = String.ofList (joinWords (words name.toList)) := by
  rw [slugify, slugChars_eq]

theorem words_slugify (name : String) : words (slugify name).toList = words name.toList := by
  rw [slugify_eq, String.toList_ofList]
  exact words_joinWords fun _ h => ⟨(mem_words h).1, (mem_words h).2.1⟩

theorem slugify_eq_iff {name other : String} :
    slugify name = slugify other ↔ words name.toList = words other.toList := by
  constructor
  · intro h
    rw [← words_slugify name, h, words_slugify other]
  · intro h
    rw [slugify_eq, slugify_eq, h]

theorem slugify_eq_empty_iff {name : String} :
    slugify name = "" ↔ ∀ c ∈ name.toList, c.isAlphanum = false := by
  constructor
  · intro hempty
    by_contra hnot
    have hany : name.toList.any Char.isAlphanum := by simpa using hnot
    have hfragment := isFragment_slugify hany
    rw [hempty] at hfragment
    nomatch hfragment
  · intro hnone
    have hnil : words name.toList = [] := by
      rw [List.eq_nil_iff_forall_not_mem]
      intro w hw
      obtain ⟨-, -, c, hc, halphanum⟩ := mem_words hw
      rw [hnone c hc] at halphanum
      nomatch halphanum
    rw [slugify_eq, hnil]
    rfl

variable {items : List Item} {i j : Item} {v w : ItemValue}

theorem groupOf_append (front back : List Item) :
    groupOf (front ++ back) =
      (back.filterMap fun i => i.value.map fun v => (slugify i.name, v.tokenValue)).foldl
        (fun m e => m.insert e.1 e.2) (groupOf front) := by
  rw [groupOf, OrderedMap.ofList, List.filterMap_append, List.foldl_append]
  rfl

theorem groupOf_concat (items : List Item) (hj : j.value = some w) :
    groupOf (items ++ [j]) = (groupOf items).insert (slugify j.name) w.tokenValue := by
  rw [groupOf_append]
  simp [hj]

theorem get?_groupOf_append (front : List Item) {back : List Item} {name : String}
    (h : ∀ x ∈ back, x.value.isSome → words x.name.toList ≠ words name.toList) :
    (groupOf (front ++ back)).get? (slugify name) = (groupOf front).get? (slugify name) := by
  rw [groupOf_append]
  apply OrderedMap.get?_foldl_insert_of_forall_ne
  intro e he
  obtain ⟨x, hx, hsome⟩ := List.mem_filterMap.1 he
  obtain ⟨v, hv, rfl⟩ := Option.map_eq_some_iff.1 hsome
  exact fun hslug => h x hx (hv ▸ rfl) (slugify_eq_iff.1 hslug)

/-- Slugs hold the words of names and nothing else, so two names have one slug when they have the
same words. An item of the same words is then the one whose value counts. -/
theorem slugify_words :
    (∀ name, (slugify name).toList = ['-'].intercalate (words name.toList)) ∧
    (∀ name, slugify name = "" ∨ IsSlug (slugify name).toList) ∧
    (∀ name, slugify (slugify name) = slugify name) ∧
    (∀ name, slugify name = "" ↔ ∀ c ∈ name.toList, c.isAlphanum = false) ∧
    (∀ name other, slugify name = slugify other ↔ words name.toList = words other.toList) ∧
    (∀ (i j : Item) (v w : ItemValue), i.value = some v → j.value = some w →
      ((groupOf [i, j]).entries =
        if words i.name.toList = words j.name.toList then [(slugify i.name, w.tokenValue)]
        else [(slugify i.name, v.tokenValue), (slugify j.name, w.tokenValue)]) ∧
      ∀ front mid back : List Item,
        (∀ x ∈ back, x.value.isSome → words x.name.toList ≠ words i.name.toList) →
        (groupOf (front ++ i :: mid ++ j :: back)).get? (slugify i.name) =
          if words i.name.toList = words j.name.toList then some w.tokenValue
          else (groupOf (front ++ i :: mid)).get? (slugify i.name)) := by
  refine ⟨?_, ?_, ?_, fun _ => slugify_eq_empty_iff, fun _ _ => slugify_eq_iff, ?_⟩
  · intro name
    rw [slugify_eq, String.toList_ofList]
    rfl
  · intro name
    rw [slugify_eq, String.toList_ofList]
    by_cases hnil : words name.toList = []
    · exact .inl (hnil ▸ rfl)
    · exact .inr (isSlug_words hnil)
  · intro name
    exact slugify_eq_iff.2 (words_slugify name)
  · intro i j v w hi hj
    constructor
    · have hfirst : groupOf [i] = .singleton (slugify i.name) v.tokenValue := groupOf_concat [] hi
      have hboth : groupOf [i, j] = (groupOf [i]).insert (slugify j.name) w.tokenValue :=
        groupOf_concat [i] hj
      have hentries : (groupOf [i, j]).entries =
          OrderedMap.put (slugify j.name) w.tokenValue [(slugify i.name, v.tokenValue)] := by
        rw [hboth, hfirst, OrderedMap.entries_insert, OrderedMap.singleton,
          OrderedMap.entries_insert, OrderedMap.entries_empty, OrderedMap.put]
      rw [hentries, OrderedMap.put]
      split
      · next hslug => rw [if_pos (slugify_eq_iff.1 hslug), hslug]
      · next hslug => rw [if_neg (mt slugify_eq_iff.2 hslug), OrderedMap.put]
    · intro front mid back hback
      have hcut : front ++ i :: mid ++ j :: back = (front ++ i :: mid ++ [j]) ++ back := by simp
      rw [hcut, get?_groupOf_append _ hback, groupOf_concat _ hj, OrderedMap.get?_insert]
      simp only [slugify_eq_iff]

theorem slugify_words_spellings :
    let i : Item := { name := " _XL / 2Xl\u00e9\u2003", value := some (.text "1rem") }
    let j : Item := { name := "xl--2XL!", value := some (.text "2rem") }
    let k : Item := { name := "xl2 xl", value := some (.text "3rem") }
    (groupOf [i, j]).entries = [("xl-2xl", .scalar "2rem")] ∧
      (groupOf [i, k]).entries = [("xl-2xl", .scalar "1rem"), ("xl2-xl", .scalar "3rem")] ∧
      (groupOf [k, i, k, j, k]).get? "xl-2xl" = some (.scalar "2rem") := by
  intro i j k
  obtain ⟨-, -, -, -, -, hitems⟩ := slugify_words
  have hslug : slugify i.name = "xl-2xl" := by decide
  have hother : slugify k.name = "xl2-xl" := by decide
  have hij : words i.name.toList = words j.name.toList := by decide
  have hik : words i.name.toList ≠ words k.name.toList := by decide
  have hback : ∀ x ∈ [k], x.value.isSome → words x.name.toList ≠ words i.name.toList := by
    intro x hx _
    rw [List.mem_singleton.1 hx]
    exact hik.symm
  obtain ⟨hsame, hfound⟩ := hitems i j (.text "1rem") (.text "2rem") rfl rfl
  have hdiffer := (hitems i k (.text "1rem") (.text "3rem") rfl rfl).1
  have hlast := hfound [k] [k] [k] hback
  rw [if_pos hij, hslug] at hsame hlast
  rw [if_neg hik, hslug, hother] at hdiffer
  exact ⟨hsame, hdiffer, hlast⟩

end UtilityCss.Token
