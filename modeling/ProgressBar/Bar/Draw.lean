import ProgressBar.Bar.Line
import ProgressBar.Console

/-!
# Building and drawing bars

The operations of a bar that can be seen from outside: building one, which is reported whether it
succeeds or not, and drawing one. A draw lays the line out, reports it, writes the line and then its
end, and flushes once. The bar itself is never changed by a draw.

A draw ends in one of three ways: it is done, the sink fails, or the track is too wide for a text;
in the last case nothing was reported or written.
-/

namespace ProgressBar

/-- **Why a draw did not succeed.** -/
inductive DrawError where
  /-- The track has more characters than a text can hold. -/
  | trackTooWide
  | sink (fault : Fault)
  deriving DecidableEq, Repr

namespace Bar

/-- **Build a bar** and report the outcome. -/
def build (config : Config) (console : Console) : Except ConfigError Bar × Console :=
  match ofConfig config with
  | .ok bar => (.ok bar, console.report (.built config.width config.total))
  | .error error => (.error error, console.report (.refused config error))

/-- **Draw a bar** on a console. -/
def draw (bar : Bar) (console : Console) : Except DrawError Unit × Console :=
  match bar.line? with
  | none => (.error .trackTooWide, console)
  | some line =>
    match (console.report (.drawing line)).write [line, bar.terminator] with
    | (.ok (), console) => (.ok (), console)
    | (.error fault, console) => (.error (.sink fault), console)

end Bar

end ProgressBar
