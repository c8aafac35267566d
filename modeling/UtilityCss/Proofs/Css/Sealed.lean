import UtilityCss.Css.Identifier
import UtilityCss.Proofs.Css.ReadBack
import UtilityCss.Proofs.OrderedMap

/-!
Text that stays in its place. Where a backslash protects the character behind it, the escaped form
of any text holds no structure, and neither does text without braces, semicolons, backslashes and
line ends.
-/
namespace UtilityCss.Css

open Identifier

/-- No structure, and no line end, for a reader that minds backslashes. -/
structure Sealed (text : List Char) : Prop where
  inert : Reader.inert .escaped false false text
  newline : '\n' ∉ text

theorem inert_inRule {inRule guarded : Bool} {text : List Char}
    (h : Reader.inert .escaped false guarded text) : Reader.inert .escaped inRule guarded text := by
  induction text generalizing guarded with
  | nil => exact h
  | cons c rest ih =>
    have hstop : Reader.isStop .escaped inRule c = Reader.isStop .escaped false c := by
      simp [Reader.isStop]
    simp only [Reader.inert, Bool.and_eq_true, hstop] at h ⊢
    exact ⟨h.1, ih h.2⟩

namespace Sealed

variable {front back text : List Char}

theorem nil : Sealed [] := ⟨rfl, by simp⟩

theorem append (hfront : Sealed front) (hback : Sealed back) : Sealed (front ++ back) :=
  ⟨Reader.inert_append hfront.inert hback.inert,
    by simp [hfront.newline, hback.newline]⟩

theorem flatMap {f : Char → List Char} (h : ∀ c, Sealed (f c)) : Sealed (text.flatMap f) := by
  induction text with
  | nil => exact nil
  | cons c rest ih => exact (h c).append ih

end Sealed

abbrev IsClean : List Char → Prop := FreeOf ['\x7b', '\x7d', ';', '\\', '\n']

abbrev IsName : List Char → Prop := FreeOf [':', '\x7b', '\x7d', ';', '\\', '\n']

theorem FreeOf.append {chars front back : List Char} (hfront : FreeOf chars front)
    (hback : FreeOf chars back) : FreeOf chars (front ++ back) :=
  List.forall_mem_append.2 ⟨hfront, hback⟩

theorem IsName.isClean {text : List Char} (h : IsName text) : IsClean text := by
  intro c hc hmem
  exact h c hc (List.mem_cons_of_mem _ hmem)

theorem IsClean.isSealed {text : List Char} (h : IsClean text) : Sealed text where
  inert := by
    apply Reader.inert_of_forall
    intro c hc
    have hfree := h c hc
    simp_all [Reader.isStop, Reader.protects]
  newline := fun hc => h _ hc (by simp)

structure CleanDeclaration (e : String × String) : Prop where
  property : IsName e.1.toList
  value : IsClean e.2.toList

theorem CleanDeclaration.ofList {property value : List Char} (hproperty : IsName property)
    (hvalue : IsClean value) :
    CleanDeclaration (String.ofList property, String.ofList value) where
  property := by simpa only [String.toList_ofList] using hproperty
  value := by simpa only [String.toList_ofList] using hvalue

theorem CleanDeclaration.readable {e : String × String} (h : CleanDeclaration e) :
    DeclarationReadable .escaped e where
  property := inert_inRule h.property.isClean.isSealed.inert
  colon := fun hc => h.property _ hc (by simp)
  newline := h.property.isClean.isSealed.newline
  value := inert_inRule h.value.isSealed.inert

def Declarations.IsClean (block : Declarations) : Prop := ∀ e ∈ block.entries, CleanDeclaration e

structure Fragment.IsSealed (f : Fragment) : Prop where
  selector : Sealed f.selector.toList
  declarations : f.declarations.IsClean

theorem Fragment.IsSealed.readable {f : Fragment} (h : f.IsSealed) : f.Readable .escaped where
  selector := h.selector.inert
  newline := h.selector.newline
  declarations := fun e he => (h.declarations e he).readable

theorem isName_of_isFragmentChar {text : List Char} (h : text.all isFragmentChar) : IsName text := by
  intro c hc hmem
  have hfragment := List.all_eq_true.1 h c hc
  have hstops : [':', '\x7b', '\x7d', ';', '\\', '\n'].all fun c => !isFragmentChar c := by decide
  have hstop := List.all_eq_true.1 hstops c hmem
  simp [hfragment] at hstop

/-- The backslash protects the first digit, and the others need no protection. -/
theorem sealed_codePoint {c : Char} (h : c.toNat < 128) : Sealed (codePoint c) := by
  have hall : ∀ n < 128, Reader.inert .escaped false false ('\\' :: Nat.toDigits 16 n ++ [' ']) ∧
      '\n' ∉ '\\' :: Nat.toDigits 16 n ++ [' '] := by decide
  exact ⟨(hall _ h).1, (hall _ h).2⟩

theorem sealed_escapeInner (c : Char) : Sealed (escapeInner c) := by
  unfold escapeInner
  split
  · exact ⟨by decide, by decide⟩
  split
  · next hcontrol =>
    apply sealed_codePoint
    simp only [isControl, Bool.or_eq_true, decide_eq_true_eq] at hcontrol
    omega
  · next hcontrol =>
    have hnewline : c ≠ '\n' := by
      rintro rfl
      exact hcontrol (by decide)
    split
    · next hplain =>
      have hclean : IsClean [c] := by
        have hstops : ['\x7b', '\x7d', ';', '\\', '\n'].all fun c => !isPlain c := by decide
        intro x hx hmem
        obtain rfl := List.mem_singleton.1 hx
        have hstop := List.all_eq_true.1 hstops x hmem
        simp [hplain] at hstop
      exact hclean.isSealed
    · -- Behind a backslash any character is inert, though the text would not be if it ended there.
      exact ⟨by simp [Reader.inert, Reader.isStop, Reader.protects], by simpa using hnewline.symm⟩

theorem sealed_escapeLeading (c : Char) : Sealed (escapeLeading c) := by
  unfold escapeLeading
  split
  · next hdigit =>
    apply sealed_codePoint
    have hrange := Char.isDigit_iff_toNat.1 hdigit
    change 48 ≤ c.toNat ∧ c.toNat ≤ 57 at hrange
    omega
  · exact sealed_escapeInner c

theorem sealed_escapeChars (text : List Char) : Sealed (escapeChars text) := by
  unfold escapeChars
  split
  · exact .nil
  · exact ⟨by decide, by decide⟩
  · next c rest =>
    have hdash : Sealed ['-'] := ⟨by decide, by decide⟩
    exact hdash.append ((sealed_escapeLeading c).append (.flatMap sealed_escapeInner))
  · next c rest _ _ => exact (sealed_escapeLeading c).append (.flatMap sealed_escapeInner)

theorem sealed_classSelector (token : String) : Sealed (classSelector token).toList := by
  have hdot : Sealed ['.'] := ⟨by decide, by decide⟩
  have htext : (classSelector token).toList = ['.'] ++ escapeChars token.toList := by
    simp [classSelector, escape]
  rw [htext]
  exact hdot.append (sealed_escapeChars token.toList)

end UtilityCss.Css
