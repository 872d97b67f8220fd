import ProgressBar.Bar.Draw
import ProgressBar.CommandLine.Settings
import ProgressBar.Program.Outcome

/-!
# Sessions

A session draws a bar while input comes in. The input is a row of records, each ended by the
delimiter; the last one may lack its end, and a record without an end counts if it has a byte. Each
record moves the bar one step and draws it. When the input is over, the line of an unfinished bar is
ended.

The bytes of a record do not matter, so a session keeps no more of them than whether there are any.
It can be fed in parts: what a part begins, the next may finish.
-/

namespace ProgressBar.Program

/-- **A session.** -/
structure Session where
  bar : Bar
  /-- The byte that ends a record. -/
  delimiter : UInt8
  /-- Bytes were read since the last delimiter. -/
  isMidRecord : Bool := false
  deriving DecidableEq

namespace Session

/-- The ending of a run whose bar could not be drawn. -/
def endingOf : DrawError → Ending
  | .trackTooWide => .crashed
  | .sink fault => .ofOutputFault fault

/-- Draw the bar. -/
def draw (session : Session) (console : Console) : Except Ending Unit × Console :=
  let (result, console) := session.bar.draw console
  (result.mapError endingOf, console)

/-- **A record has ended.** -/
def record (session : Session) (console : Console) : Except Ending Session × Console :=
  let moved := { session with bar := session.bar.tick, isMidRecord := false }
  let (result, console) := moved.draw console
  (result.map fun () => moved, console)

/-- A byte is read. -/
def readByte (session : Session) (byte : UInt8) (console : Console) :
    Except Ending Session × Console :=
  if byte = session.delimiter then session.record console
  else (.ok { session with isMidRecord := true }, console)

/-- **Some bytes are read.** -/
def feed (session : Session) (console : Console) : List UInt8 → Except Ending Session × Console
  | [] => (.ok session, console)
  | byte :: rest =>
    match session.readByte byte console with
    | (.ok session, console) => session.feed console rest
    | (.error ending, console) => (.error ending, console)

/-- End the line of an unfinished bar. -/
def endLine (session : Session) (console : Console) : Ending × Console :=
  if session.bar.isComplete then (.finished, console)
  else
    match console.write ["\n"] with
    | (.ok (), console) => (.finished, console)
    | (.error fault, console) => (.ofOutputFault fault, console)

/-- **The input is over.** -/
def finish (session : Session) (console : Console) : Ending × Console :=
  if session.isMidRecord then
    match session.record console with
    | (.ok session, console) => session.endLine console
    | (.error ending, console) => (ending, console)
  else session.endLine console

/-- The session that settings ask for, if the delimiter is a single byte and the bar can be built.
-/
def ofSettings (settings : CommandLine.Settings) (console : Console) :
    Except Ending Session × Console :=
  if settings.delimiter.toNat < 0x80 then
    let (result, console) := settings.build console
    (match result with
      | .ok bar => .ok { bar, delimiter := settings.delimiter.toUInt8 }
      | .error error => .error (.failed (.config error)),
      console)
  else (.error (.failed (.delimiterNotAscii settings.delimiter)), console)

end Session

end ProgressBar.Program
