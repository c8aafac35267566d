/-!
The order of floating-point numbers. It is total but for what is not a number.
-/
namespace UtilityCss.Decimal

open Float.Model (UnpackedFloat)

theorem isSome_compare (a b : UnpackedFloat) : (a.compare b).isSome = (!a.isNaN && !b.isNaN) := by
  cases a with
  | notANumber => cases b <;> rfl
  | infinity s => cases s <;> cases b with
    | infinity t => cases t <;> rfl
    | _ => rfl
  | zero s => cases b with
    | infinity t | finite t => cases t <;> rfl
    | _ => rfl
  | finite s => cases s <;> cases b with
    | infinity t | finite t => cases t <;> rfl
    | _ => rfl

theorem compare_swap (a b : UnpackedFloat) : a.compare b = (b.compare a).map Ordering.swap := by
  cases a with
  | notANumber => cases b <;> rfl
  | infinity s => cases s <;> cases b with
    | infinity t => cases t <;> rfl
    | _ => rfl
  | zero s => cases b with
    | infinity t | finite t => cases t <;> rfl
    | _ => rfl
  | finite s m e =>
    cases b with
    | infinity t => cases s <;> cases t <;> rfl
    | finite t n d =>
      have hm : compare m n = (compare n m).swap := Std.OrientedCmp.eq_swap
      have he : compare e d = (compare d e).swap := Std.OrientedCmp.eq_swap
      have hthen : (compare e d).then (compare m n) = ((compare d e).then (compare n m)).swap := by
        rw [Ordering.swap_then, ← hm, ← he]
      cases s with
      | negative => cases t with
        | negative => exact congrArg (fun o : Ordering => some o.swap) hthen
        | positive => rfl
      | positive => cases t with
        | negative => rfl
        | positive => exact congrArg some hthen
    | _ => cases s <;> rfl

theorem not_le_iff_lt {a b : Float} (ha : a.isNaN = false) (hb : b.isNaN = false) :
    ¬ b ≤ a ↔ a < b := by
  have hsome : (b.toModel.unpack.compare a.toModel.unpack).isSome := by
    have ha' : a.toModel.unpack.isNaN = false := ha
    have hb' : b.toModel.unpack.isNaN = false := hb
    rw [isSome_compare, ha', hb']
    rfl
  obtain ⟨order, horder⟩ := Option.isSome_iff_exists.1 hsome
  have hle : b ≤ a ↔ order.isLE := by
    change decide ((b.toModel.unpack.compare a.toModel.unpack).any Ordering.isLE) ↔ _
    simp [horder]
  have hlt : a < b ↔ order.swap = .lt := by
    change decide (a.toModel.unpack.compare b.toModel.unpack == some .lt) ↔ _
    rw [compare_swap, horder]
    simp
  rw [hle, hlt]
  cases order <;> decide

end UtilityCss.Decimal
