import ProgressBar.Proofs.Bar.Scaling

/-!
# How far the two shares drift apart

The filled cells and the percentage are cut off toward zero, each on its own, so they need not
describe the same share. Compared on a common scale, where a cell counts 100 and a percent counts as
much as there are cells, each is less than the other with one unit of the other's more.

**The law** (`Bar.shares_drift`): as long as neither quotient is clamped, the two never drift apart
by a whole unit, and they lie on the same side of zero. With a hundred cells they are equal.

Both bounds are one fact (`quotient_scaled_lt`), read with the two scales in either order: a
quotient that is cut off stays below the exact one, and the exact one stays below the quotient and
one more.

**What it does not establish.** Once one of the quotients is clamped there is no bound: the other
still follows the progress.
-/

namespace ProgressBar

/-! ## Two scales of one share -/

/-- **A share on one scale is below the same share on another with one unit more**, whichever of the
two scales is the finer. -/
theorem quotient_scaled_lt {n total scale other : Nat} (totalPos : 0 < total)
    (otherPos : 0 < other) :
    n * other / total * scale < other * (n * scale / total + 1) := by
  have cutOff : n * other / total * total ≤ n * other := Nat.div_mul_le_self ..
  have exact : n * scale < total * (n * scale / total + 1) := Nat.lt_mul_div_succ _ totalPos
  apply Nat.lt_of_mul_lt_mul_right (a := total)
  calc n * other / total * scale * total
      = n * other / total * total * scale := Nat.mul_right_comm ..
    _ ≤ n * other * scale := Nat.mul_le_mul_right scale cutOff
    _ = other * (n * scale) := by rw [Nat.mul_comm n other, Nat.mul_assoc]
    _ < other * (total * (n * scale / total + 1)) := Nat.mul_lt_mul_of_pos_left exact otherPos
    _ = other * (n * scale / total + 1) * total := by
      rw [Nat.mul_comm total, Nat.mul_assoc]

/-- The magnitude of a quotient that is cut off toward zero is the quotient of the magnitudes. -/
theorem natAbs_scaled_tdiv (current total : Int) (scale : Nat) :
    ((current * scale).tdiv total).natAbs = current.natAbs * scale / total.natAbs := by
  rw [Int.natAbs_tdiv, Int.natAbs_mul, Int.natAbs_natCast]
  rfl

/-- **Two shares of one progress lie on the same side of zero**, or are zero: rounding is towards
zero for both, so neither crosses it. -/
theorem scaled_same_side (current : Int) {total : Int} (totalPos : 0 < total)
    (scale other : Nat) :
    (0 ≤ (current * scale).tdiv total ∧ 0 ≤ (current * other).tdiv total) ∨
      ((current * scale).tdiv total ≤ 0 ∧ (current * other).tdiv total ≤ 0) := by
  rcases Int.le_total 0 current with forward | back
  · have nonneg (factor : Nat) : 0 ≤ (current * factor).tdiv total :=
      Int.tdiv_nonneg (Int.mul_nonneg forward (Int.natCast_nonneg factor)) (Int.le_of_lt totalPos)
    exact .inl ⟨nonneg scale, nonneg other⟩
  · have nonpos (factor : Nat) : (current * factor).tdiv total ≤ 0 :=
      tdiv_nonpos (Int.mul_nonpos_of_nonpos_of_nonneg back (Int.natCast_nonneg factor)) totalPos
    exact .inr ⟨nonpos scale, nonpos other⟩

/-! ## Shares that are not clamped -/

/-- **A number can be told** when it lies in the range of a progress. -/
def Told (n : Int) : Prop := Int64.minValue.toInt ≤ n ∧ n ≤ Int64.maxValue.toInt

instance (n : Int) : Decidable (Told n) := inferInstanceAs (Decidable (_ ∧ _))

theorem clampTo_of_told {n : Int} (told : Told n) : clampTo 64 n = n :=
  clampTo_of_mem told.1 told.2

namespace Bar

variable {bar : Bar}

/-- The number of filled cells is the quotient itself where that can be told. -/
theorem toInt_filled_of_told
    (told : Told ((bar.current.toInt * bar.width.toNat).tdiv bar.total.toInt)) :
    bar.filled.toInt = (bar.current.toInt * bar.width.toNat).tdiv bar.total.toInt := by
  rw [toInt_filled, clampTo_of_told told]

/-- The percentage is the quotient itself where that can be told. The hundred is written as a
natural number here, like every other scale. -/
theorem toInt_percent_of_told (told : Told ((bar.current.toInt * 100).tdiv bar.total.toInt)) :
    bar.percent.toInt = (bar.current.toInt * (100 : Nat)).tdiv bar.total.toInt := by
  rw [toInt_percent, clampTo_of_told told]
  rfl

/-- **The filled cells and the percentage never drift apart by a whole unit.** Take any bar with at
least one cell, at any progress for which both quotients can be told. With `f` filled cells and `p`
percent, both without their sign, `p` percent are less than `f + 1` cells and `f` cells are less
than `p + 1` percent, over the integers. Neither is negative where the other is positive. With a
hundred cells the two numbers are equal. -/
theorem shares_drift (bar : Bar) (widthPos : 1 ≤ bar.width.toNat)
    (filledTold : Told ((bar.current.toInt * bar.width.toNat).tdiv bar.total.toInt))
    (percentTold : Told ((bar.current.toInt * 100).tdiv bar.total.toInt)) :
    let f := bar.filled.toInt.natAbs
    let p := bar.percent.toInt.natAbs
    (p * bar.width.toNat < 100 * (f + 1) ∧ 100 * f < (p + 1) * bar.width.toNat) ∧
      ¬ (bar.filled.toInt < 0 ∧ 0 < bar.percent.toInt) ∧
      ¬ (0 < bar.filled.toInt ∧ bar.percent.toInt < 0) ∧
      (bar.width.toNat = 100 → bar.filled = bar.percent) := by
  intro f p
  have totalPos := bar.toInt_total_pos
  have magnitudePos : 0 < bar.total.toInt.natAbs := Int.natAbs_pos.mpr (Int.ne_of_gt totalPos)
  have filled : f = bar.current.toInt.natAbs * bar.width.toNat / bar.total.toInt.natAbs := by
    rw [← natAbs_scaled_tdiv, ← toInt_filled_of_told filledTold]
  have percent : p = bar.current.toInt.natAbs * 100 / bar.total.toInt.natAbs := by
    rw [← natAbs_scaled_tdiv, ← toInt_percent_of_told percentTold]
  have percentBelow : p * bar.width.toNat < 100 * (f + 1) := by
    rw [filled, percent]
    exact quotient_scaled_lt magnitudePos (by decide)
  have filledBelow : f * 100 < bar.width.toNat * (p + 1) := by
    rw [filled, percent]
    exact quotient_scaled_lt magnitudePos widthPos
  have sides := scaled_same_side bar.current.toInt totalPos bar.width.toNat 100
  rw [← toInt_filled_of_told filledTold, ← toInt_percent_of_told percentTold] at sides
  refine ⟨⟨percentBelow, ?_⟩, by omega, by omega, fun hundred => ?_⟩
  · rwa [Nat.mul_comm 100, Nat.mul_comm (p + 1)]
  · -- Less than one unit apart, the magnitudes are equal, and so are the signs.
    rw [hundred] at percentBelow filledBelow
    have magnitudes : bar.filled.toInt.natAbs = bar.percent.toInt.natAbs := by omega
    exact Int64.toInt_inj.mp (by omega)

/-- Seven cells for a total of three, far below zero. -/
theorem shares_drift_below_zero :
    let bar : Bar := ⟨'#', ('[', ']'), 7, 3, -200, true, false, Template.standard, by decide⟩
    Told ((bar.current.toInt * bar.width.toNat).tdiv bar.total.toInt) ∧
      Told ((bar.current.toInt * 100).tdiv bar.total.toInt) ∧
      bar.filled.toInt = -466 ∧ bar.percent.toInt = -6666 ∧
      6666 * 7 < 100 * (466 + 1) ∧ 100 * 466 < (6666 + 1) * 7 := by
  intro bar
  have filledTold : Told ((bar.current.toInt * bar.width.toNat).tdiv bar.total.toInt) := by decide
  have percentTold : Told ((bar.current.toInt * 100).tdiv bar.total.toInt) := by decide
  have filled : bar.filled.toInt = -466 := by
    rw [toInt_filled_of_told filledTold]
    decide
  have percent : bar.percent.toInt = -6666 := by
    rw [toInt_percent_of_told percentTold]
    decide
  obtain ⟨drift, -⟩ := shares_drift bar (by decide) filledTold percentTold
  rw [filled, percent] at drift
  exact ⟨filledTold, percentTold, filled, percent, drift⟩

end Bar

end ProgressBar
