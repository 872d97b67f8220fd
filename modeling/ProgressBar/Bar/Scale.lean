import ProgressBar.Bar.Basic

/-!
# The share that is done

How many cells are filled and how many percent are reached. Both scale the progress to another range
and cut the fraction off toward zero, each on its own, so the two need not describe the same share.
Products are held in 128 bits and results in 64; a number beyond its range is replaced by the end of
the range that it passed.

**What it does not establish.** Neither number is bounded by the width or by 100: the progress may
be negative or beyond the total.
-/

namespace ProgressBar

/-- The number that is one too great to be held in `bits` bits. -/
def wordEnd (bits : Nat) : Int := (1 <<< (bits - 1) : Nat)

/-- **A number held in `bits` bits**: itself, or the end of the range that it passed. -/
def clampTo (bits : Nat) (n : Int) : Int := max (-wordEnd bits) (min n (wordEnd bits - 1))

namespace Bar

/-- **How many cells the progress fills**, `current * width / total`. -/
def filled (bar : Bar) : Int64 :=
  let product := clampTo 128 (bar.current.toInt * bar.width.toNat)
  Int64.ofInt (clampTo 64 (product.tdiv bar.total.toInt))

/-- **How many percent are reached**, `current * 100 / total`. -/
def percent (bar : Bar) : Int64 :=
  Int64.ofInt (clampTo 64 ((bar.current.toInt * 100).tdiv bar.total.toInt))

/-- A bar is complete when its percentage has reached 100. -/
def isComplete (bar : Bar) : Bool := decide (100 ≤ bar.percent)

end Bar

/-- A number that a word can hold is not changed when it is clamped to the word. -/
theorem clampTo_of_mem {bits : Nat} {n : Int} (low : -wordEnd bits ≤ n)
    (high : n ≤ wordEnd bits - 1) : clampTo bits n = n := by
  unfold clampTo; omega

end ProgressBar
