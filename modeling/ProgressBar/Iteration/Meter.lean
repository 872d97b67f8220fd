import ProgressBar.Bar.Draw
import ProgressBar.Iteration.Walk

/-!
# Meters

A meter is a bar that counts what passes it. Each item moves the bar one step and draws it. A meter
is **open** from an item on until it is closed; closing an open meter ends the line of an unfinished
bar, so that the next text does not stand on top of it. A meter that was closed stays quiet until
the next item.

A draw that fails, or a line that cannot be ended, is reported to the log and does not hold up the
items. Only a track that is too wide stops them.
-/

namespace ProgressBar.Iteration

/-- **A meter.** -/
structure Meter where
  bar : Bar
  /-- An unfinished line may stand on the screen. -/
  isOpen : Bool := false
  deriving DecidableEq

namespace Meter

/-- **An item passes.** The meter is open and the bar moved on before the draw. -/
def advance (meter : Meter) (console : Console) : Except Halt Unit × Meter × Console :=
  let bar := meter.bar.tick
  let moved : Meter := { bar, isOpen := true }
  match bar.draw console with
  | (.ok (), console) => (.ok (), moved, console)
  | (.error (.sink fault), console) => (.ok (), moved, console.report (.drawFailed fault))
  | (.error .trackTooWide, console) => (.error .trackTooWide, moved, console)

/-- **Close a meter.** It is closed before the line is ended, so a failure is not tried again. -/
def close (meter : Meter) (console : Console) : Meter × Console :=
  let closed := { meter with isOpen := false }
  if meter.isOpen && !meter.bar.isComplete then
    match console.write ["\n"] with
    | (.ok (), console) => (closed, console)
    | (.error fault, console) => (closed, console.report (.closeFailed fault))
  else (closed, console)

/-- Whether or not its line could be drawn, a meter that advances has counted the item and is open
again. -/
theorem advance_meter (meter : Meter) (console : Console) :
    (meter.advance console).2.1 = { bar := meter.bar.tick, isOpen := true } := by
  unfold advance
  dsimp only
  split <;> rfl

/-- A meter that was closed stays closed, also when the end of its line could not be written. -/
theorem close_meter (meter : Meter) (console : Console) :
    (meter.close console).1 = { meter with isOpen := false } := by
  unfold close
  dsimp only
  split
  · split <;> rfl
  · rfl

end Meter

end ProgressBar.Iteration
