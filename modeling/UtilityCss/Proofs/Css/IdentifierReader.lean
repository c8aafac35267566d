import Mathlib.Data.List.Basic
import UtilityCss.Proofs.Css.Identifier
import UtilityCss.Unicode.CharSet

/-!
Identifiers as a stylesheet is read. A reader takes name characters and escapes for as long as there
are any, and leaves what follows. The written form of a string is read back as that string, but for
NUL, which no stylesheet can hold, so different strings have different written forms.
-/
namespace UtilityCss.Css.Identifier

open Unicode (CharSet)

def isStartChar (c : Char) : Bool := c.isAlpha || c = '_' || decide (128 ≤ c.toNat)

def isNameChar (c : Char) : Bool := isStartChar c || c.isDigit || c = '-'

def isHexDigit (c : Char) : Bool := c.isDigit || ('a' ≤ c && c ≤ 'f') || ('A' ≤ c && c ≤ 'F')

def isLineEnd (c : Char) : Bool := c = '\n' || c = '\r' || c = '\x0c'

def isSpace (c : Char) : Bool := c = ' ' || c = '\t' || isLineEnd c

def startsEscape : List Char → Bool
  | '\\' :: rest => !rest.head?.any isLineEnd
  | _ => false

/-- A dash begins an identifier only together with what follows it. -/
def startsIdentifier : List Char → Bool
  | '-' :: rest => rest.head?.any (fun c => isStartChar c || c = '-') || startsEscape rest
  | text => text.head?.any isStartChar || startsEscape text

def charOfCode (n : Nat) : Char := if n = 0 ∨ ¬ n.isValidChar then '\ufffd' else Char.ofNat n

/-- What the text behind a backslash stands for, and the rest of that text. Up to six hexadecimal
digits are a code point, which a blank may end. -/
def readEscape : List Char → Char × List Char
  | [] => ('\ufffd', [])
  | c :: rest =>
    let digits := ((c :: rest).take 6).takeWhile isHexDigit
    if digits.isEmpty then (c, rest)
    else
      let behind := (c :: rest).drop digits.length
      (charOfCode (CharSet.hexNumber digits),
        if behind.head?.any isSpace then behind.drop 1 else behind)

theorem length_readEscape_le (text : List Char) : (readEscape text).2.length ≤ text.length := by
  cases text with
  | nil => exact Nat.le_refl 0
  | cons c rest =>
    simp only [readEscape]
    split
    · simp
    · dsimp only
      split
      · simp only [List.length_drop]
        omega
      · simp only [List.length_drop]
        omega

def readChars : List Char → List Char × List Char
  | [] => ([], [])
  | c :: rest =>
    if isNameChar c then Prod.map (c :: ·) id (readChars rest)
    else if startsEscape (c :: rest) then
      Prod.map ((readEscape rest).1 :: ·) id (readChars (readEscape rest).2)
    else ([], c :: rest)
termination_by text => text.length
decreasing_by
  · simp
  · exact Nat.lt_succ_of_le (length_readEscape_le rest)

def read (text : String) : String × String :=
  Prod.map String.ofList String.ofList (readChars text.toList)

/-- What is left of a character in a stylesheet. -/
def legible (c : Char) : Char := if c = '\x00' then '\ufffd' else c

theorem isNameChar_eq_isPlain (c : Char) : isNameChar c = isPlain c := by
  rw [Bool.eq_iff_iff]
  simp only [isNameChar, isStartChar, isPlain, Char.isAlphanum, Bool.or_eq_true, decide_eq_true_eq,
    Bool.not_eq_true', decide_eq_false_iff_not, Nat.not_lt]
  tauto

theorem readChars_name {c : Char} (h : isNameChar c) (rest : List Char) :
    readChars (c :: rest) = Prod.map (c :: ·) id (readChars rest) := by
  rw [readChars, if_pos h]

theorem readChars_escape {text : List Char} (h : startsEscape ('\\' :: text)) :
    readChars ('\\' :: text) =
      Prod.map ((readEscape text).1 :: ·) id (readChars (readEscape text).2) := by
  have hname : ¬ isNameChar '\\' := by decide
  rw [readChars, if_neg hname, if_pos h]

theorem readChars_stop {text : List Char}
    (h : ∀ c ∈ text.head?, isNameChar c = false ∧ c ≠ '\\') : readChars text = ([], text) := by
  cases text with
  | nil => rw [readChars]
  | cons c rest =>
    obtain ⟨hname, hbackslash⟩ := h c rfl
    have hescape : ¬ startsEscape (c :: rest) := by
      simp [startsEscape, hbackslash]
    rw [readChars, if_neg (by simp [hname]), if_neg hescape]

theorem readEscape_digits {digits : List Char} (hne : digits ≠ []) (hlength : digits.length ≤ 6)
    (hdigits : ∀ c ∈ digits, isHexDigit c) (rest : List Char) :
    readEscape (digits ++ ' ' :: rest) = (charOfCode (CharSet.hexNumber digits), rest) := by
  have htaken : ((digits ++ ' ' :: rest).take 6).takeWhile isHexDigit = digits := by
    have hblank : ((' ' :: rest).take (6 - digits.length)).takeWhile isHexDigit = [] := by
      cases 6 - digits.length with
      | zero => rfl
      | succ n => rfl
    rw [List.take_append, List.take_of_length_le hlength, List.takeWhile_append_of_pos hdigits,
      hblank, List.append_nil]
  obtain ⟨c, more, rfl⟩ := List.exists_cons_of_ne_nil hne
  rw [List.cons_append] at htaken ⊢
  rw [readEscape, htaken]
  simp [isSpace]

theorem toDigits_sixteen (n : Nat) :
    (∀ d ∈ Nat.toDigits 16 n, isHexDigit d) ∧ CharSet.hexNumber (Nat.toDigits 16 n) = n := by
  have hdigit : ∀ d < 16, isHexDigit d.digitChar ∧ CharSet.hexDigit d.digitChar = d := by decide
  induction n using Nat.strongRecOn with
  | ind n ih =>
    rw [Nat.toDigits_eq_if (by decide)]
    split
    · next hlt => simp [CharSet.hexNumber, hdigit n hlt]
    · next hge =>
      obtain ⟨hdigits, hnumber⟩ := ih (n / 16) (Nat.div_lt_self (by omega) (by decide))
      obtain ⟨hlast, hvalue⟩ := hdigit (n % 16) (Nat.mod_lt n (by decide))
      refine ⟨List.forall_mem_append.2 ⟨hdigits, by simp [hlast]⟩, ?_⟩
      rw [CharSet.hexNumber, List.foldl_append]
      change 16 * CharSet.hexNumber (Nat.toDigits 16 (n / 16)) + CharSet.hexDigit _ = n
      rw [hnumber, hvalue, Nat.div_add_mod]

theorem isLineEnd_of_isHexDigit {c : Char} (h : isHexDigit c) : isLineEnd c = false := by
  rw [Bool.eq_false_iff]
  intro hline
  simp only [isLineEnd, Bool.or_eq_true, decide_eq_true_eq] at hline
  obtain (rfl | rfl) | rfl := hline <;> nomatch h

theorem startsEscape_codePoint (c : Char) (rest : List Char) :
    startsEscape (codePoint c ++ rest) := by
  have hne : Nat.toDigits 16 c.toNat ≠ [] := Nat.toDigits_ne_nil
  obtain ⟨d, more, hdigits⟩ := List.exists_cons_of_ne_nil hne
  have hline : isLineEnd d = false := by
    apply isLineEnd_of_isHexDigit
    exact (toDigits_sixteen c.toNat).1 d (hdigits ▸ List.mem_cons_self)
  simp [codePoint, hdigits, startsEscape, hline]

theorem readChars_codePoint {c : Char} (hzero : c ≠ '\x00') (rest : List Char) :
    readChars (codePoint c ++ rest) = Prod.map (c :: ·) id (readChars rest) := by
  obtain ⟨hdigits, hnumber⟩ := toDigits_sixteen c.toNat
  have hlength : (Nat.toDigits 16 c.toNat).length ≤ 6 := by
    have hvalid : c.toNat.isValidChar := c.valid
    rw [Nat.length_toDigits_le_iff (by decide) (by decide)]
    unfold Nat.isValidChar at hvalid
    omega
  have hchar : charOfCode c.toNat = c := by
    have hcode : c.toNat ≠ 0 := fun h0 => hzero (Char.toNat_inj.1 h0)
    rw [charOfCode, if_neg, Char.ofNat_toNat]
    exact not_or.2 ⟨hcode, not_not.2 c.valid⟩
  have htext : codePoint c ++ rest = '\\' :: (Nat.toDigits 16 c.toNat ++ ' ' :: rest) := by
    simp [codePoint]
  have hescape := startsEscape_codePoint c rest
  rw [htext] at hescape ⊢
  rw [readChars_escape hescape, readEscape_digits Nat.toDigits_ne_nil hlength hdigits, hnumber, hchar]

theorem readChars_backslash {c : Char} (hline : isLineEnd c = false) (hdigit : isHexDigit c = false)
    (rest : List Char) :
    readChars ('\\' :: c :: rest) = Prod.map (c :: ·) id (readChars rest) := by
  have hescape : startsEscape ('\\' :: c :: rest) := by simp [startsEscape, hline]
  have hread : readEscape (c :: rest) = (c, rest) := by simp [readEscape, hdigit]
  rw [readChars_escape hescape, hread]

theorem isPlain_of_isHexDigit {c : Char} (h : isHexDigit c) : isPlain c := by
  have halphanum : c.isAlphanum := by
    simp only [isHexDigit, Bool.or_eq_true, Bool.and_eq_true, decide_eq_true_eq, Char.le_def,
      UInt32.le_iff_toNat_le, Char.isDigit_iff_toNat] at h
    change ((48 ≤ c.toNat ∧ c.toNat ≤ 57) ∨ (97 ≤ c.toNat ∧ c.toNat ≤ 102)) ∨
      (65 ≤ c.toNat ∧ c.toNat ≤ 70) at h
    rw [Text.isAlphanum_iff]
    omega
  simp [isPlain, halphanum]

theorem isControl_of_isLineEnd {c : Char} (h : isLineEnd c) : isControl c := by
  simp only [isLineEnd, Bool.or_eq_true, decide_eq_true_eq] at h
  obtain (rfl | rfl) | rfl := h <;> decide

theorem readChars_escapeInner (c : Char) (rest : List Char) :
    readChars (escapeInner c ++ rest) = Prod.map (legible c :: ·) id (readChars rest) := by
  unfold escapeInner legible
  split
  · exact readChars_name (by decide) rest
  next hzero =>
  split
  · exact readChars_codePoint hzero rest
  next hcontrol =>
  split
  · next hplain => exact readChars_name ((isNameChar_eq_isPlain c).trans hplain) rest
  · next hplain =>
    apply readChars_backslash
    · exact Bool.eq_false_iff.2 fun h => hcontrol (isControl_of_isLineEnd h)
    · exact Bool.eq_false_iff.2 fun h => hplain (isPlain_of_isHexDigit h)

theorem readChars_escapeLeading (c : Char) (rest : List Char) :
    readChars (escapeLeading c ++ rest) = Prod.map (legible c :: ·) id (readChars rest) := by
  unfold escapeLeading
  split
  · next hdigit =>
    have hzero : c ≠ '\x00' := by
      rintro rfl
      nomatch hdigit
    have hlegible : legible c = c := if_neg hzero
    rw [hlegible]
    exact readChars_codePoint hzero rest
  · exact readChars_escapeInner c rest

theorem readChars_flatMap (text rest : List Char) :
    readChars (text.flatMap escapeInner ++ rest) =
      Prod.map (text.map legible ++ ·) id (readChars rest) := by
  induction text with
  | nil => rfl
  | cons c more ih =>
    rw [List.flatMap_cons, List.append_assoc, readChars_escapeInner, ih]
    rfl

/-- The written form of any text is read as that text, whatever the reader finds behind it. -/
theorem readChars_escapeChars (text rest : List Char) :
    readChars (escapeChars text ++ rest) =
      Prod.map (text.map legible ++ ·) id (readChars rest) := by
  unfold escapeChars
  split
  · rfl
  · exact readChars_backslash rfl rfl rest
  · next c more =>
    have hdash : isNameChar '-' := by decide
    rw [List.cons_append, List.cons_append, readChars_name hdash, List.append_assoc,
      readChars_escapeLeading, readChars_flatMap]
    rfl
  · next c more _ _ =>
    rw [List.append_assoc, readChars_escapeLeading, readChars_flatMap]
    rfl

theorem startsIdentifier_of_start {text : List Char}
    (h : text.head?.any isStartChar ∨ startsEscape text) : startsIdentifier text := by
  unfold startsIdentifier
  split
  · next rest =>
    have hdash : ¬ ((('-' :: rest).head?.any isStartChar) ∨ startsEscape ('-' :: rest)) := by
      simp [startsEscape, isStartChar]
    exact absurd h hdash
  · exact Bool.or_eq_true _ _ ▸ h

theorem starts_escapeLeading {c : Char} (h : c ≠ '-') (rest : List Char) :
    (escapeLeading c ++ rest).head?.any isStartChar ∨ startsEscape (escapeLeading c ++ rest) := by
  unfold escapeLeading
  split
  · exact .inr (startsEscape_codePoint c rest)
  next hdigit =>
  unfold escapeInner
  split
  · exact .inl rfl
  split
  · exact .inr (startsEscape_codePoint c rest)
  next hcontrol =>
  split
  · next hplain =>
    left
    rw [← isNameChar_eq_isPlain] at hplain
    simpa [isNameChar, h, hdigit] using hplain
  · right
    have hline : isLineEnd c = false :=
      Bool.eq_false_iff.2 fun h => hcontrol (isControl_of_isLineEnd h)
    simp [startsEscape, hline]

theorem startsIdentifier_escapeChars {text : List Char} (h : text ≠ []) (rest : List Char) :
    startsIdentifier (escapeChars text ++ rest) := by
  unfold escapeChars
  split
  · exact absurd rfl h
  · rfl
  · next c more =>
    rw [List.cons_append, List.cons_append, List.append_assoc]
    by_cases hdash : c = '-'
    · rw [hdash]
      rfl
    · simp only [startsIdentifier, Bool.or_eq_true]
      refine (starts_escapeLeading hdash _).imp_left fun hstart => ?_
      rw [Option.any_eq_true] at hstart ⊢
      obtain ⟨x, hx, hstart⟩ := hstart
      exact ⟨x, hx, by rw [hstart]; rfl⟩
  · next c more hlone hdash =>
    rw [List.append_assoc]
    apply startsIdentifier_of_start
    apply starts_escapeLeading
    rintro rfl
    cases more with
    | nil => exact hlone rfl rfl
    | cons d more => exact hdash d more rfl rfl

theorem escapeInner_legible (c : Char) : escapeInner (legible c) = escapeInner c := by
  unfold legible
  split
  · next hzero =>
    rw [hzero]
    decide
  · rfl

theorem escapeLeading_legible (c : Char) : escapeLeading (legible c) = escapeLeading c := by
  unfold legible
  split
  · next hzero =>
    rw [hzero]
    decide
  · rfl

theorem escapeChars_map_legible (text : List Char) :
    escapeChars (text.map legible) = escapeChars text := by
  have hinner : ∀ rest : List Char,
      (rest.map legible).flatMap escapeInner = rest.flatMap escapeInner := by
    intro rest
    rw [List.flatMap_map]
    exact congrArg (rest.flatMap ·) (funext escapeInner_legible)
  cases text with
  | nil => rfl
  | cons c rest =>
    by_cases hdash : c = '-'
    · subst hdash
      cases rest with
      | nil => rfl
      | cons d more =>
        change '-' :: escapeLeading (legible d) ++ (more.map legible).flatMap escapeInner = _
        rw [escapeLeading_legible, hinner]
        rfl
    · have hlegible : legible c ≠ '-' := by
        unfold legible
        split
        · decide
        · exact hdash
      rw [List.map_cons, escapeChars_cons hlegible, escapeChars_cons hdash, escapeLeading_legible,
        hinner]

theorem escape_eq_iff {s t : String} :
    escape s = escape t ↔ s.map legible = t.map legible := by
  constructor
  · intro h
    have hread : ∀ s : String, (readChars (escape s).toList).1 = s.toList.map legible := by
      intro s
      have hnil : readChars [] = ([], []) := by rw [readChars]
      have hback := readChars_escapeChars s.toList []
      rw [List.append_nil, hnil] at hback
      simp [escape, hback]
    rw [← String.toList_inj, String.toList_map, String.toList_map, ← hread s, h, hread t]
  · intro h
    have htext : s.toList.map legible = t.toList.map legible := by
      rw [← String.toList_map, h, String.toList_map]
    rw [escape, escape, ← escapeChars_map_legible s.toList, htext, escapeChars_map_legible]

/-- Reading undoes writing. In front of a text that goes on with neither a name character nor a
backslash, the written form of a string begins an identifier, which is read as the string and ends
where the text begins. So strings that are written alike differ at most by NUL in place of the
replacement character, and no two tokens without NUL share a class selector. -/
theorem escape_reads_back :
    (∀ s rest : String, s ≠ "" →
      (∀ c ∈ rest.toList.head?, isNameChar c = false ∧ c ≠ '\\') →
      startsIdentifier (escape s ++ rest).toList ∧
        read (escape s ++ rest) = (s.map legible, rest)) ∧
    (∀ s t : String, escape s = escape t ↔ s.map legible = t.map legible) ∧
    ∀ s t : String, '\x00' ∉ s.toList → '\x00' ∉ t.toList →
      classSelector s = classSelector t → s = t := by
  refine ⟨?_, @escape_eq_iff, ?_⟩
  · intro s rest hs hrest
    have htext : (escape s ++ rest).toList = escapeChars s.toList ++ rest.toList := by
      simp [escape]
    have hne : s.toList ≠ [] := by
      rwa [Ne, String.toList_eq_nil_iff]
    refine ⟨?_, ?_⟩
    · rw [htext]
      exact startsIdentifier_escapeChars hne rest.toList
    · rw [read, htext, readChars_escapeChars, readChars_stop hrest]
      simp [← String.toList_inj]
  · intro s t hs ht h
    have hself : ∀ s : String, '\x00' ∉ s.toList → s.map legible = s := by
      intro s hs
      have hchar : ∀ c ∈ s.toList, legible c = id c := by
        intro c hc
        exact if_neg fun hzero : c = '\x00' => hs (hzero ▸ hc)
      rw [← String.toList_inj, String.toList_map, List.map_congr_left hchar, List.map_id]
    have hescape : escape s = escape t := by
      simpa [classSelector, ← String.toList_inj] using h
    rw [← hself s hs, escape_eq_iff.1 hescape, hself t ht]

/-- A leading digit, with a blank to end it and a letter behind that could be a digit. -/
theorem escape_reads_back_digits :
    escape "-2a\x00:\x01" = "-\\32 a\ufffd\\:\\1 " ∧
      startsIdentifier "-\\32 a\ufffd\\:\\1  b".toList ∧
      read "-\\32 a\ufffd\\:\\1  b" = ("-2a\ufffd:\x01", " b") ∧
      classSelector "1" ≠ classSelector "1 " := by
  have hescape : escape "-2a\x00:\x01" = "-\\32 a\ufffd\\:\\1 " := by decide
  have hlegible : "-2a\x00:\x01".map legible = "-2a\ufffd:\x01" := by
    rw [← String.toList_inj, String.toList_map]
    decide
  have hstop : ∀ c ∈ " b".toList.head?, isNameChar c = false ∧ c ≠ '\\' := by
    intro c hc
    obtain rfl := Option.some.inj hc
    exact ⟨by decide, by decide⟩
  obtain ⟨hread, -, hselector⟩ := escape_reads_back
  obtain ⟨hstarts, hback⟩ := hread "-2a\x00:\x01" " b" (by decide) hstop
  rw [hescape] at hstarts hback
  rw [hlegible] at hback
  refine ⟨hescape, hstarts, hback, ?_⟩
  intro h
  have hsame := hselector "1" "1 " (by decide) (by decide) h
  nomatch hsame

end UtilityCss.Css.Identifier
