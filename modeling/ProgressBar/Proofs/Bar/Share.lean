import ProgressBar.Bar.Line

/-!
# The share that is done, over the integers

A percentage is a product, a quotient cut off toward zero and a clamp, each of them in words of a
fixed size. Here it is read as one integer, and compared with the progress it was made from.

**The law** (`Bar.isComplete_iff`): a bar is complete exactly when its progress has reached its
total. What is cut off or clamped away never moves the percentage across 100.

**What it does not establish.** Below completion the percentage and the filled cells are cut off
apart, and nothing here relates one to the other.
-/

namespace ProgressBar

/-! ## Clamping -/

/-- What was clamped to 64 bits is held by a word of 64 bits. -/
theorem toInt_ofInt_clampTo (n : Int) : (Int64.ofInt (clampTo 64 n)).toInt = clampTo 64 n := by
  have bound : wordEnd 64 = 2 ^ 63 := rfl
  apply Int64.toInt_ofInt_of_le <;> rw [clampTo, bound] <;> omega

/-- Clamping does not move a number across a bound that the word itself can hold. -/
theorem le_clampTo_iff {bits : Nat} {m n : Int} (low : -wordEnd bits < m)
    (high : m ≤ wordEnd bits - 1) : m ≤ clampTo bits n ↔ m ≤ n := by
  unfold clampTo; omega

/-- Clamping keeps the order of numbers, so a greater progress never shows a smaller share. -/
theorem clampTo_mono {bits : Nat} {m n : Int} (le : m ≤ n) : clampTo bits m ≤ clampTo bits n := by
  unfold clampTo; omega

/-! ## Quotients cut off toward zero -/

/-- A number that is not positive has no positive quotient. -/
theorem tdiv_nonpos {n d : Int} (nonpos : n ≤ 0) (dPos : 0 < d) : n.tdiv d ≤ 0 := by
  have := Int.tdiv_nonneg (Int.neg_nonneg_of_nonpos nonpos) (Int.le_of_lt dPos)
  rw [Int.neg_tdiv] at this
  omega

/-- A positive number is at most a quotient just when its multiple is at most the dividend: what is
cut off is less than one. -/
theorem le_tdiv_iff {m n d : Int} (mPos : 0 < m) (dPos : 0 < d) : m ≤ n.tdiv d ↔ m * d ≤ n := by
  rcases Int.le_total 0 n with nonneg | nonpos
  · rw [Int.tdiv_eq_ediv_of_nonneg nonneg]
    exact Int.le_ediv_iff_mul_le dPos
  · have quotient : n.tdiv d ≤ 0 := tdiv_nonpos nonpos dPos
    have product : 0 < m * d := Int.mul_pos mPos dPos
    constructor <;> intro <;> omega

namespace Bar

variable (bar : Bar)

/-- A bar carries the proof that its total is positive; here it is for whole numbers, as divisions
ask for it. -/
theorem toInt_total_pos : 0 < bar.total.toInt := by
  simpa only [Int64.toInt_zero] using Int64.lt_iff_toInt_lt.mp bar.total_pos

/-! ## Percentages -/

/-- **The percentage, as an integer**, with the product in 128 bits and only the quotient clamped to
64. -/
theorem toInt_percent :
    bar.percent.toInt = clampTo 64 ((bar.current.toInt * 100).tdiv bar.total.toInt) :=
  toInt_ofInt_clampTo _

/-- **A bar is complete exactly when its progress has reached its total.** The percentage is rounded
towards zero, so it is 100 no sooner, and clamping does not reach down to it. -/
theorem isComplete_iff : bar.isComplete = true ↔ bar.total ≤ bar.current := by
  have hundred : (100 : Int64).toInt = 100 := rfl
  rw [isComplete, decide_eq_true_iff, Int64.le_iff_toInt_le, Int64.le_iff_toInt_le, toInt_percent,
    hundred, le_clampTo_iff (by decide) (by decide), le_tdiv_iff (by decide) bar.toInt_total_pos]
  omega

/-- How a drawn line ends is told by the progress and the total alone, without the percentage. -/
theorem terminator_eq : bar.terminator = if bar.total ≤ bar.current then "\n" else "\r" := by
  simp only [terminator, isComplete_iff]

/-! ## The same bar at another progress -/

/-- **A bar with its progress set** to a value. -/
def setTo (bar : Bar) (value : Int64) : Bar := { bar with current := value }

variable {value further : Int64}

/-- **More progress is no smaller a percentage**, over all progress, clamped or not. -/
theorem toInt_percent_setTo_mono (le : value.toInt ≤ further.toInt) :
    (bar.setTo value).percent.toInt ≤ (bar.setTo further).percent.toInt := by
  rw [toInt_percent, toInt_percent]
  apply clampTo_mono
  exact Int.tdiv_le_tdiv bar.toInt_total_pos (Int.mul_le_mul_of_nonneg_right le (by decide))

/-- A progress that is not negative has a percentage that is not. -/
theorem toInt_percent_setTo_nonneg (nonneg : 0 ≤ value.toInt) :
    0 ≤ (bar.setTo value).percent.toInt := by
  rw [toInt_percent, le_clampTo_iff (by decide) (by decide)]
  exact Int.tdiv_nonneg (Int.mul_nonneg nonneg (by decide)) (Int.le_of_lt bar.toInt_total_pos)

end Bar

end ProgressBar
