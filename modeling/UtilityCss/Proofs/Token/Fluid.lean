import Mathlib
import UtilityCss.Token.Fluid

/-!
What a fluid size comes to in pixels, with exact arithmetic. Between the two viewports it is on the
line through its two sizes, and outside it stays at the one that is next, as long as the size does
not shrink. The size at the smallest viewport is written as the lower bound, and where the bounds
cross the lower one wins, so a size that shrinks on paper does not change at all.
-/
namespace UtilityCss.Token

/-- What `clamp(low, preferred, high)` comes to. -/
def clampLength (low preferred high : ℚ) : ℚ := max low (min preferred high)

variable {low preferred high : ℚ}

theorem clampLength_of_crossed (h : high ≤ low) : clampLength low preferred high = low :=
  max_eq_left ((min_le_right preferred high).trans h)

theorem clampLength_of_le (h : preferred ≤ low) : clampLength low preferred high = low :=
  max_eq_left ((min_le_left preferred high).trans h)

theorem clampLength_of_ge (hbounds : low ≤ high) (h : high ≤ preferred) :
    clampLength low preferred high = high := by
  rw [clampLength, min_eq_right h, max_eq_right hbounds]

theorem clampLength_of_mem (hlow : low ≤ preferred) (hhigh : preferred ≤ high) :
    clampLength low preferred high = preferred := by
  rw [clampLength, min_eq_left hhigh, max_eq_right hlow]

/-- The line through `min` at the smallest viewport and `max` at the largest. -/
def Viewports.line (v : Viewports ℚ) (min max width : ℚ) : ℚ :=
  min + (max - min) * ((width - v.min) / (v.max - v.min))

variable {v : Viewports ℚ} {min max : ℚ}

theorem Viewports.validate_eq_ok : v.validate = .ok () ↔ v.min < v.max := by
  simp [validate]

theorem Viewports.line_at_min (v : Viewports ℚ) (min max : ℚ) : v.line min max v.min = min := by
  simp [line]

theorem Viewports.line_at_max (hv : v.min < v.max) (min max : ℚ) :
    v.line min max v.max = max := by
  rw [line, div_self (sub_pos.2 hv).ne', mul_one, add_sub_cancel]

theorem Viewports.line_mono (hv : v.min < v.max) (hsizes : min ≤ max) :
    Monotone (v.line min max) := by
  intro a b hab
  have hwidths : (a - v.min) / (v.max - v.min) ≤ (b - v.min) / (v.max - v.min) :=
    div_le_div_of_nonneg_right (sub_le_sub_right hab v.min) (sub_pos.2 hv).le
  exact add_le_add_right (mul_le_mul_of_nonneg_left hwidths (sub_nonneg.2 hsizes)) min

def rem (x : ℚ) : ℚ := x * rootSize

def vw (x width : ℚ) : ℚ := x * (width / 100)

/-- What the figures that are written come to at a width, in pixels. -/
def FluidSize.pixels : FluidSize ℚ → ℚ → ℚ
  | fixed size, _ => rem size
  | clamped c, width => clampLength (rem c.low) (rem c.offset + vw c.percent width) (rem c.high)

theorem rem_div_rootSize (x : ℚ) : rem (x / rootSize) = x := by
  simp [rem, rootSize]

theorem rem_offset_add_vw (hv : v.min < v.max) (min max width : ℚ) :
    rem (Clamp.between rootSize min max v.min v.max).offset +
        vw (Clamp.between rootSize min max v.min v.max).percent width =
      v.line min max width := by
  have hwidths : v.max - v.min ≠ 0 := (sub_pos.2 hv).ne'
  have hscaled : v.max / 16 - v.min / 16 ≠ 0 := by
    rw [← sub_div]
    exact div_ne_zero hwidths (by norm_num)
  simp only [rem, vw, Clamp.between, Clamp.percent, Viewports.line, rootSize]
  field_simp
  ring

theorem pixels_fluidSize_self (size width : ℚ) :
    (fluidSize size size v).pixels width = size := by
  simp only [fluidSize, beq_self_eq_true, if_true]
  exact rem_div_rootSize size

theorem pixels_fluidSize (hv : v.min < v.max) (hne : min ≠ max) (width : ℚ) :
    (fluidSize min max v).pixels width = clampLength min (v.line min max width) max := by
  have hlow : rem (Clamp.between rootSize min max v.min v.max).low = min := rem_div_rootSize min
  have hhigh : rem (Clamp.between rootSize min max v.min v.max).high = max := rem_div_rootSize max
  rw [fluidSize, if_neg (by simpa using hne), FluidSize.pixels, hlow, hhigh, rem_offset_add_vw hv]

/-- The first size up to the smallest viewport, the second from the largest on, and in between what is
on the line. -/
structure FluidSize.Interpolates (size : FluidSize ℚ) (v : Viewports ℚ) (min max : ℚ) : Prop where
  below : ∀ width ≤ v.min, size.pixels width = min
  above : ∀ width, v.max ≤ width → size.pixels width = max
  between : ∀ width, v.min ≤ width → width ≤ v.max → size.pixels width = v.line min max width

theorem interpolates_fluidSize (hv : v.min < v.max) (hsizes : min ≤ max) :
    (fluidSize min max v).Interpolates v min max := by
  obtain rfl | hlt := hsizes.eq_or_lt
  · exact
      { below := fun width _ => pixels_fluidSize_self min width
        above := fun width _ => pixels_fluidSize_self min width
        between := by
          intro width _ _
          rw [pixels_fluidSize_self, Viewports.line, sub_self, zero_mul, add_zero] }
  · have hmono := Viewports.line_mono hv hsizes
    exact
      { below := by
          intro width hwidth
          rw [pixels_fluidSize hv hlt.ne]
          exact clampLength_of_le ((hmono hwidth).trans_eq (v.line_at_min min max))
        above := by
          intro width hwidth
          rw [pixels_fluidSize hv hlt.ne]
          apply clampLength_of_ge hsizes
          exact (Viewports.line_at_max hv min max).symm.trans_le (hmono hwidth)
        between := by
          intro width hlow hhigh
          rw [pixels_fluidSize hv hlt.ne]
          apply clampLength_of_mem
          · exact (v.line_at_min min max).symm.trans_le (hmono hlow)
          · exact (hmono hhigh).trans_eq (Viewports.line_at_max hv min max) }

theorem pixels_of_shrinking (hv : v.min < v.max) (hsizes : max < min) (width : ℚ) :
    (fluidSize min max v).pixels width = min := by
  rw [pixels_fluidSize hv hsizes.ne']
  exact clampLength_of_crossed hsizes.le

/-- A fluid size keeps to its two sizes just where the first is not the larger one. A size that would
shrink is the first size at every width. -/
theorem fluidSize_interpolates_iff (v : Viewports ℚ) (hv : v.validate = .ok ()) (min max : ℚ) :
    ((fluidSize min max v).Interpolates v min max ↔ min ≤ max) ∧
      (max < min → ∀ width, (fluidSize min max v).pixels width = min) := by
  have hwidths := Viewports.validate_eq_ok.1 hv
  refine ⟨⟨?_, interpolates_fluidSize hwidths⟩, pixels_of_shrinking hwidths⟩
  intro h
  by_contra hshrinks
  rw [not_le] at hshrinks
  have hsame : min = max :=
    (pixels_of_shrinking hwidths hshrinks v.max).symm.trans (h.above v.max le_rfl)
  exact hshrinks.ne' hsame

theorem fluidSize_interpolates_halfway :
    let v : Viewports ℚ := { min := 320, max := 1240 }
    v.validate = .ok () ∧
      (fluidSize 16 18 v).pixels 780 = 17 ∧ (fluidSize 16 18 v).pixels 2000 = 18 ∧
      (fluidSize 20 16 v).pixels 2000 = 20 := by
  intro v
  have hv : v.validate = .ok () := Viewports.validate_eq_ok.2 (by norm_num [v])
  have hgrows := (fluidSize_interpolates_iff v hv 16 18).1.2 (by norm_num)
  refine ⟨hv, ?_, hgrows.above 2000 (by norm_num [v]), ?_⟩
  · rw [hgrows.between 780 (by norm_num [v]) (by norm_num [v])]
    norm_num [Viewports.line, v]
  · exact (fluidSize_interpolates_iff v hv 20 16).2 (by norm_num) 2000

/-- At the largest viewport the size is still the one for the smallest. -/
theorem fluidSize_shrinking_stays :
    let v : Viewports ℚ := { min := 320, max := 1280 }
    v.validate = .ok () ∧ (fluidSize 20 16 v).pixels 1280 = 20 ∧
      ¬ (fluidSize 20 16 v).Interpolates v 20 16 := by
  intro v
  have hv : v.min < v.max := by norm_num [v]
  have hstays : (fluidSize 20 16 v).pixels 1280 = 20 := pixels_of_shrinking hv (by norm_num) 1280
  refine ⟨Viewports.validate_eq_ok.2 hv, hstays, ?_⟩
  intro h
  have hreached := h.above 1280 (by norm_num [v])
  rw [hstays] at hreached
  norm_num at hreached

end UtilityCss.Token
