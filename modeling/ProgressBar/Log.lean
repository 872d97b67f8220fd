import ProgressBar.Config
import ProgressBar.Fault
import ProgressBar.Text.Quoted

/-!
# What is logged

The events a bar reports about itself while it is built and drawn, each with a level and a wording.
An event holds what happened; its wording is made only when somebody reads the log.
-/

namespace ProgressBar.Log

/-- How much an event matters. -/
inductive Level where
  | trace
  | debug
  | warn
  deriving DecidableEq, Repr

/-- The name of a level. -/
def Level.name : Level → String
  | .trace => "TRACE"
  | .debug => "DEBUG"
  | .warn => "WARN"

/-- Whether events of a level are shown to the user: warnings always, and more when diagnostics are
wanted. -/
def Level.isShown (diagnostics : Bool) : Level → Bool
  | .trace => false
  | .debug => diagnostics
  | .warn => true

/-- **An event.** -/
inductive Event where
  /-- A bar was built. -/
  | built (width : UInt64) (total : Int64)
  /-- A configuration was refused. -/
  | refused (config : Config) (error : ConfigError)
  /-- A line is about to be drawn. -/
  | drawing (line : String)
  /-- A line could not be drawn in full. -/
  | drawFailed (fault : Fault)
  /-- The line of an unfinished bar could not be ended. -/
  | closeFailed (fault : Fault)
  deriving DecidableEq, Repr

/-- The level of an event. -/
def Event.level : Event → Level
  | .built .. | .drawFailed _ | .closeFailed _ => .debug
  | .refused .. => .warn
  | .drawing _ => .trace

/-- A configuration as it stands in the log. -/
def configText (config : Config) : String :=
  let fill := Text.quotedChar config.fill
  let width := toString config.width.toNat
  let total := toString config.total.toInt
  "Config \x7b fill: " ++ fill ++ ", width: " ++ width ++ ", total: " ++ total ++ " \x7d"

/-- **The wording of an event.** -/
def Event.message : Event → String
  | .built width total => s!"new progress bar: width={width.toNat} total={total.toInt}"
  | .refused config error =>
    "rejected progress bar config " ++ configText config ++ ": " ++ error.message
  | .drawing line => "drawing " ++ Text.quoted line
  | .drawFailed fault => "failed to draw progress bar: " ++ fault.message
  | .closeFailed fault => "failed to close progress bar: " ++ fault.message

/-- An event as a line of the log. -/
def Event.text (event : Event) : String := event.level.name ++ " " ++ event.message

/-! ## Lines of the log -/

/-- A message with a known opening makes a line of the log that begins with the level and that
opening. -/
theorem text_of_message {event : Event} {opening rest : String}
    (message : event.message = opening ++ rest) :
    event.text = (event.level.name ++ " " ++ opening) ++ rest := by
  rw [Event.text, message, ← String.append_assoc]

/-- **A drawn line is traced**: the whole of it stands in the log, in quotation marks. -/
theorem text_drawing (line : String) :
    (Event.drawing line).text = "TRACE drawing " ++ Text.quoted line := by
  have opening : Level.trace.name ++ " " ++ "drawing " = "TRACE drawing " := by decide
  exact (text_of_message rfl).trans (by rw [Event.level, opening])

/-- **A draw that failed** stands in the log with what is said about the fault. -/
theorem text_drawFailed (fault : Fault) :
    (Event.drawFailed fault).text = "DEBUG failed to draw progress bar: " ++ fault.message := by
  have opening : Level.debug.name ++ " " ++ "failed to draw progress bar: " =
      "DEBUG failed to draw progress bar: " := by decide
  exact (text_of_message rfl).trans (by rw [Event.level, opening])

/-- **A line that could not be ended** stands in the log with what is said about the fault. -/
theorem text_closeFailed (fault : Fault) :
    (Event.closeFailed fault).text = "DEBUG failed to close progress bar: " ++ fault.message := by
  have opening : Level.debug.name ++ " " ++ "failed to close progress bar: " =
      "DEBUG failed to close progress bar: " := by decide
  exact (text_of_message rfl).trans (by rw [Event.level, opening])

end ProgressBar.Log
