import ProgressBar.CommandLine.Scan
import ProgressBar.Program.Help
import ProgressBar.Program.Session

/-!
# A run of the program

From the arguments and the input to the outcome. A run first reads its command line, which may end
it; then it makes the session and draws the bar once; only then it looks at its input.
-/

namespace ProgressBar.Program

/-- **The input of a run**: some bytes, or a fault in reading them. -/
inductive Input where
  | bytes (bytes : List UInt8)
  | unreadable (fault : Fault)
  deriving DecidableEq

/-- The answer to an inquiry. -/
def answer : CommandLine.Inquiry → String
  | .version => name ++ " " ++ version ++ "\n"
  | .help => help

/-- The command line has stopped the run. -/
def stopped (stop : CommandLine.Stop) (console : Console) : Ending × Console :=
  match stop with
  | .wrong error => (.wrongUsage error, console)
  | .asked inquiry => (.finished, (console.write [answer inquiry]).2)

/-- **Open a session**: make it and draw the bar for the first time. -/
def openSession (settings : CommandLine.Settings) (console : Console) :
    Except Ending Session × Console :=
  match Session.ofSettings settings console with
  | (.ok session, console) =>
    let (result, console) := session.draw console
    (result.map fun () => session, console)
  | (.error ending, console) => (.error ending, console)

/-- **What an open session makes of the input.** -/
def takeInput (session : Session) (input : Input) (console : Console) : Ending × Console :=
  match input with
  | .unreadable fault => (.ofInputFault fault, console)
  | .bytes bytes =>
    match session.feed console bytes with
    | (.ok session, console) => session.finish console
    | (.error ending, console) => (ending, console)

/-- A run with a command line that was understood. -/
def runSettings (settings : CommandLine.Settings) (input : Input) (console : Console) :
    Ending × Console :=
  match openSession settings console with
  | (.ok session, console) => takeInput session input console
  | (.error ending, console) => (ending, console)

/-- **A run of the program.** -/
def run (arguments : List String) (input : Input) (stdout : Sink) : Outcome :=
  let console : Console := { sink := stdout }
  let (ending, console) :=
    match CommandLine.read arguments with
    | .ok settings => runSettings settings input console
    | .error stop => stopped stop console
  { ending, stdout := console.sink.taken }

end ProgressBar.Program
