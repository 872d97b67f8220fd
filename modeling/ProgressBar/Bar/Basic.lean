import ProgressBar.Config
import ProgressBar.Template

/-!
# Bars

A bar is what is drawn while some work of known size goes on: how far the work has come, the total
that counts as all of it, and how the line that shows it is laid out. Every bar has a positive
total; the type carries the proof, so no later computation asks again.

The progress may be any 64-bit number. One step beyond the greatest is the least.
-/

namespace ProgressBar

/-- **A bar.** -/
structure Bar where
  /-- The symbol of a completed cell. -/
  fill : Char
  /-- The characters around the cells. -/
  caps : Char × Char
  /-- The number of cells. -/
  width : UInt64
  /-- The value that stands for 100 %. -/
  total : Int64
  /-- How far the work has come. -/
  current : Int64
  showsPercent : Bool
  showsCount : Bool
  /-- The layout of the line, see `ProgressBar.Template`. -/
  template : String
  total_pos : 0 < total
  deriving DecidableEq

namespace Bar

/-- **The bar of a configuration**: nothing done yet, square brackets around the cells, and neither
percentage nor counter shown. -/
def ofConfig (config : Config) : Except ConfigError Bar :=
  if positive : 0 < config.total then
    .ok
      { fill := config.fill
        caps := ('[', ']')
        width := config.width
        total := config.total
        current := 0
        showsPercent := false
        showsCount := false
        template := Template.standard
        total_pos := positive }
  else .error (.totalNotPositive config.total)

/-- **Some steps forward.** -/
def advance (bar : Bar) (steps : Nat) : Bar :=
  { bar with current := bar.current + Int64.ofNat steps }

/-- **One step forward.** -/
def tick (bar : Bar) : Bar := { bar with current := bar.current + 1 }

/-- A bar is built exactly from the valid configurations: the one thing that is checked is that the
total is positive. -/
theorem ofConfig_isOk_iff (config : Config) : (ofConfig config).isOk = true ↔ config.Valid := by
  unfold ofConfig Config.Valid
  split <;> simp_all [Except.isOk, Except.toBool]

/-- **The bar of a valid configuration** has all of its total before it, and total and width as they
were configured. -/
theorem ofConfig_of_valid {config : Config} (valid : config.Valid) :
    ∃ bar, ofConfig config = .ok bar ∧ bar.current = 0 ∧ bar.total = config.total ∧
      bar.width = config.width :=
  ⟨_, dif_pos valid, rfl, rfl, rfl⟩

/-- A walk of no steps leaves the bar where it is, which is where an induction on the number of
steps begins. -/
theorem advance_zero (bar : Bar) : bar.advance 0 = bar := by
  simp [advance]

/-- **Steps add up**, however they are grouped, also where the sum wraps around the end of the
words. -/
theorem advance_advance (bar : Bar) (m n : Nat) :
    (bar.advance m).advance n = bar.advance (m + n) := by
  simp [advance, Int64.ofNat_add, Int64.add_assoc]

theorem tick_eq_advance (bar : Bar) : bar.tick = bar.advance 1 := rfl

/-- **A step after a walk** makes the walk one step longer, so that a bar ticked once for each of
some items has advanced by as many as there were. -/
theorem tick_advance (bar : Bar) (n : Nat) : (bar.advance n).tick = bar.advance (n + 1) :=
  bar.advance_advance n 1

/-- **The progress after a walk**, as a whole number wrapped to 64 bits. -/
theorem current_advance (bar : Bar) (n : Nat) :
    (bar.advance n).current = Int64.ofInt (bar.current.toInt + n) := by
  rw [Int64.ofInt_add, Int64.ofInt_toInt, Int64.ofInt_eq_ofNat]
  rfl

end Bar

end ProgressBar
