import UtilityCss.Css.Identifier
import UtilityCss.Proofs.Text.Blank
import UtilityCss.Token.Slug

/-! Slugs are pieces of identifiers: of a name they keep the letters and the digits, and besides
these they hold dashes only. -/
namespace UtilityCss.Token

open Css.Identifier (isFragment isFragmentChar)
open Text (isAlphanum_toLower isBlank_of_isAlphanum)

variable {c : Char}

theorem all_slugStep {slug : List Char} (h : slug.all isFragmentChar) (c : Char) :
    (slugStep slug c).all isFragmentChar := by
  unfold slugStep
  split
  · next halphanum => simp [isFragmentChar, isAlphanum_toLower halphanum, h]
  split
  · simp [isFragmentChar, h]
  · exact h

theorem all_foldl_slugStep {slug : List Char} (h : slug.all isFragmentChar) (name : List Char) :
    (name.foldl slugStep slug).all isFragmentChar := by
  induction name generalizing slug with
  | nil => exact h
  | cons c rest ih => exact ih (all_slugStep h c)

theorem mem_slugStep {slug : List Char} {x : Char} (h : x ∈ slug) (c : Char) :
    x ∈ slugStep slug c := by
  unfold slugStep
  split
  · exact List.mem_cons_of_mem _ h
  split
  · exact List.mem_cons_of_mem _ h
  · exact h

theorem mem_foldl_of_mem {slug : List Char} {x : Char} (h : x ∈ slug) (name : List Char) :
    x ∈ name.foldl slugStep slug := by
  induction name generalizing slug with
  | nil => exact h
  | cons c rest ih => exact ih (mem_slugStep h c)

theorem toLower_mem_foldl {name slug : List Char} (h : c ∈ name) (hc : c.isAlphanum) :
    c.toLower ∈ name.foldl slugStep slug := by
  induction name generalizing slug with
  | nil => nomatch h
  | cons d rest ih =>
    obtain rfl | hrest := List.mem_cons.1 h
    · have hkept : c.toLower ∈ slugStep slug c := by simp [slugStep, hc]
      exact mem_foldl_of_mem hkept rest
    · exact ih hrest

theorem toLower_ne_dash (h : c.isAlphanum) : c.toLower ≠ '-' := by
  intro hdash
  have hlower := isAlphanum_toLower h
  rw [hdash] at hlower
  nomatch hlower

theorem all_slugify (name : String) : (slugify name).toList.all isFragmentChar := by
  rw [List.all_eq_true]
  intro c hc
  rw [slugify, String.toList_ofList] at hc
  have hnil : ([] : List Char).all isFragmentChar := rfl
  have hall := all_foldl_slugStep hnil (Text.trimBoth Text.isBlank name.toList)
  exact List.all_eq_true.1 hall c (List.mem_reverse.1 (Text.mem_of_mem_trimBoth hc))

theorem isFragment_slugify {name : String} (h : name.toList.any Char.isAlphanum) :
    isFragment (slugify name) := by
  obtain ⟨c, hc, halphanum⟩ := List.any_eq_true.1 h
  have hkept : c.toLower ∈ (slugify name).toList := by
    rw [slugify, String.toList_ofList]
    apply Text.mem_trimBoth_of_not _ (decide_eq_false (toLower_ne_dash halphanum))
    rw [List.mem_reverse]
    apply toLower_mem_foldl _ halphanum
    exact Text.mem_trimBoth_of_not hc (isBlank_of_isAlphanum halphanum)
  have hne : (slugify name).isEmpty = false := by
    rw [Bool.eq_false_iff, ne_eq, String.isEmpty_iff]
    intro hempty
    simp [hempty] at hkept
  simp [isFragment, hne, all_slugify]

end UtilityCss.Token
