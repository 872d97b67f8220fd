import ProgressBar.Program.Run

/-!
# The program at work

Carries a session through with the real streams: what a part of the input makes the session write is
written before the next part is read. Everything is decided in `ProgressBar.Program`; here bytes are
only moved.
-/

namespace ProgressBar.Program

/-- The fault a system error stands for. -/
def faultOf : IO.Error → Fault
  | .resourceVanished .. => .brokenPipe
  | .resourceExhausted .. => .noSpace
  | .inappropriateType .. => .isDirectory
  | error => .other (toString error)

/-- Write out what a console has taken, and what it has to say. -/
def emit (diagnostics : Bool) (console : Console) : IO (Except Fault Unit) := do
  let stderr ← IO.getStderr
  for event in console.log do
    if event.level.isShown diagnostics then
      stderr.putStrLn ("[" ++ event.level.name ++ "] " ++ event.message)
  try
    let stdout ← IO.getStdout
    stdout.write console.sink.taken
    stdout.flush
    return .ok ()
  catch error =>
    return .error (faultOf error)

/-- The ending of a part of the run whose output was written out, or not. -/
def endingAfter (ending : Ending) : Except Fault Unit → Ending
  | .ok () => ending
  | .error fault => .ofOutputFault fault

/-- Read a part of the input; an empty one is its end. -/
def readPart : IO (Except Fault ByteArray) := do
  try
    let stdin ← IO.getStdin
    return .ok (← stdin.read 65536)
  catch error =>
    return .error (faultOf error)

/-- Feed a session with the input. -/
partial def follow (diagnostics : Bool) (session : Session) : IO Ending := do
  match ← readPart with
  | .error fault => return .ofInputFault fault
  | .ok part =>
    if part.isEmpty then
      let (ending, console) := session.finish {}
      return endingAfter ending (← emit diagnostics console)
    else
      let (result, console) := session.feed {} part.toList
      match ← emit diagnostics console, result with
      | .error fault, _ => return .ofOutputFault fault
      | .ok (), .error ending => return ending
      | .ok (), .ok session => follow diagnostics session

/-- A run with the real streams. -/
def perform (arguments : List String) : IO Ending := do
  match CommandLine.read arguments with
  | .error stop =>
    let (ending, console) := stopped stop {}
    discard <| emit false console
    return ending
  | .ok settings =>
    let (result, console) := openSession settings {}
    match ← emit settings.debug console, result with
    | .error fault, _ => return .ofOutputFault fault
    | .ok (), .error ending => return ending
    | .ok (), .ok session => follow settings.debug session

end ProgressBar.Program

open ProgressBar.Program in
/-- **The program.** -/
def main (arguments : List String) : IO UInt32 := do
  let ending ← perform arguments
  match ending.complaint? with
  | some complaint => (← IO.getStderr).putStrLn complaint
  | none => pure ()
  return ending.exitStatus.toUInt32
