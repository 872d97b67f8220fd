import ProgressBar.Proofs.Printing

/-!
# Frames by count

A bar that has come some number of steps from zero, with the number kept as a plain one. As long as
the count fits into the progress of a bar, the frame of a count is what is drawn after as many
steps.

**The law** (`Bar.draws_eq_frames`): what a bar draws from zero on, step by step, is the row of its
frames.
-/

namespace ProgressBar.Bar

variable (bar : Bar)

/-- **The line of a bar at some count.** -/
def lineAt (count : Nat) : String := (bar.setTo (.ofNat count)).line

/-- **The frame of a bar at some count**: its line there, left behind once the count has reached the
total, and to be drawn over before that. -/
def frameAt (count : Nat) : String :=
  bar.lineAt count ++ if bar.total.toInt ≤ count then "\n" else "\r"

/-- **The frames of a bar** from zero up to a last count. -/
def frames (last : Nat) : String := String.join ((List.range (last + 1)).map bar.frameAt)

/-- What ends the line of the last frame, if the frame has not ended it. -/
def lineEnd (last : Nat) : String := if (last : Int) < bar.total.toInt then "\n" else ""

/-- **What is drawn** step by step: so many lines, the first of them after some steps. -/
def draws (first n : Nat) : String :=
  String.join ((List.range' first n).map fun steps => (bar.advance steps).drawnLine)

theorem draws_zero (first : Nat) : bar.draws first 0 = "" := rfl

theorem draws_one (first : Nat) : bar.draws first 1 = (bar.advance first).drawnLine := by
  rw [draws, List.range'_one, List.map_cons, List.map_nil, String.join_cons, String.join_nil,
    String.append_empty]

/-- Draws of some counts and then of those behind them are the draws of all of them. -/
theorem draws_append (first m n : Nat) :
    bar.draws first m ++ bar.draws (first + m) n = bar.draws first (m + n) := by
  rw [draws, draws, draws, ← String.join_append, ← List.map_append, List.range'_append_1]

theorem draws_concat (n : Nat) :
    bar.draws 0 (n + 1) = bar.draws 0 n ++ (bar.advance n).drawnLine := by
  rw [← draws_append, draws_one, Nat.zero_add]

variable {bar} {steps last : Nat}

/-- A count that a word can hold is the value of its word; past the greatest progress a bar would
start again from below zero. -/
theorem toInt_ofNat (fits : steps ≤ Int64.maxValue.toInt) : (Int64.ofNat steps).toInt = steps := by
  rw [Int64.toInt_maxValue] at fits
  exact Int64.toInt_ofNat_of_lt (by omega)

/-- A bar that started from zero is, after some steps, the bar set to their number. -/
theorem advance_eq_setTo (fromZero : bar.current = 0) :
    bar.advance steps = bar.setTo (.ofNat steps) := by
  rw [advance, setTo, fromZero, Int64.zero_add]

/-- Words and whole numbers agree on whether a count has reached the total. -/
theorem total_le_ofNat_iff (fits : steps ≤ Int64.maxValue.toInt) :
    bar.total ≤ Int64.ofNat steps ↔ bar.total.toInt ≤ steps := by
  rw [Int64.le_iff_toInt_le, toInt_ofNat fits]

/-- **What is drawn after some steps from zero** is the frame of their number. -/
theorem drawnLine_advance (fromZero : bar.current = 0) (fits : steps ≤ Int64.maxValue.toInt) :
    (bar.advance steps).drawnLine = bar.frameAt steps := by
  have reached : (bar.setTo (.ofNat steps)).total ≤ (bar.setTo (.ofNat steps)).current ↔
      bar.total.toInt ≤ steps := total_le_ofNat_iff fits
  rw [advance_eq_setTo fromZero, drawnLine, frameAt, lineAt]
  simp only [reached]

/-- **What is drawn from zero on** is the row of frames, as long as the count stays a progress: from
the greatest word on the bar would wrap and the count would not. -/
theorem draws_eq_frames (fromZero : bar.current = 0) (fits : last ≤ Int64.maxValue.toInt) :
    bar.draws 0 (last + 1) = bar.frames last := by
  rw [draws, frames, ← List.range_eq_range']
  refine congrArg String.join (List.map_congr_left fun steps mem => ?_)
  have bound : steps < last + 1 := List.mem_range.mp mem
  exact drawnLine_advance fromZero (by omega)

/-- Whether a line is still open after the last count can be told from the count alone. -/
theorem lineEnd_eq (fromZero : bar.current = 0) (fits : last ≤ Int64.maxValue.toInt) :
    (if (bar.advance last).current < bar.total then "\n" else "") = bar.lineEnd last := by
  have below : (bar.advance last).current < bar.total ↔ (last : Int) < bar.total.toInt := by
    rw [← Int64.not_le, ← Int.not_le, advance_eq_setTo fromZero, setTo]
    exact not_congr (total_le_ofNat_iff fits)
  simp only [below, lineEnd]

/-! ## From zero to the total -/

section Total

variable {n k : Nat}

/-- **On the way from zero to the total** the progress is the number of steps. -/
theorem toInt_current_advance (fromZero : bar.current = 0) (total : bar.total.toInt = n)
    (le : k ≤ n) : (bar.advance k).current.toInt = k := by
  have fits : (k : Int) ≤ Int64.maxValue.toInt := by
    have := bar.total.toInt_lt
    rw [Int64.toInt_maxValue]
    omega
  rw [advance_eq_setTo fromZero]
  exact toInt_ofNat fits

/-- **The total is reached with the last step** and not before, if the bar started from zero and its
total is the number of steps. -/
theorem total_le_current_advance_iff (fromZero : bar.current = 0) (total : bar.total.toInt = n)
    (le : k ≤ n) : (bar.advance k).total ≤ (bar.advance k).current ↔ k = n := by
  have unmoved : (bar.advance k).total.toInt = n := total
  rw [Int64.le_iff_toInt_le, toInt_current_advance fromZero total le, unmoved]
  omega

end Total

end ProgressBar.Bar
