import ProgressBar.CommandLine.UsageError
import ProgressBar.Config
import ProgressBar.Fault

/-!
# How the program ends

The ways in which a run of the program can end, with the exit status and the one line that is said
about it on the error stream. A reader who has stopped listening is no failure: the program ends
quietly. A broken pipe is told by the fault alone, wherever it was met, so a run whose input breaks
with that fault ends quietly as well.
-/

namespace ProgressBar.Program

/-- The name the program goes by. -/
def name : String := "tly"

/-- The version of the program. -/
def version : String := "0.1.0"

/-- **Why a run fails** although its command line was right. -/
inductive Failure where
  /-- Records are bytes apart, so only an ASCII character can stand between them. -/
  | delimiterNotAscii (delimiter : Char)
  | config (error : ConfigError)
  | output (fault : Fault)
  | input (fault : Fault)
  deriving DecidableEq, Repr

/-- The wording of a failure. -/
def Failure.message : Failure → String
  | delimiterNotAscii delimiter =>
    "delimiter must be an ascii character, got " ++ Text.quotedChar delimiter
  | config error => error.message
  | output fault => fault.message
  | input fault => "failed to read stdin: " ++ fault.message

/-- Whether a failure comes of a broken pipe. What was being done at the time does not matter. -/
def Failure.isBrokenPipe : Failure → Bool
  | output .brokenPipe | input .brokenPipe => true
  | output _ | input _ | delimiterNotAscii _ | config _ => false

/-- **How a run ends.** -/
inductive Ending where
  | finished
  | wrongUsage (error : CommandLine.UsageError)
  | failed (failure : Failure)
  /-- A text was longer than texts can be. -/
  | crashed
  deriving DecidableEq, Repr

/-- The text up to the end of its first line. -/
def firstLine (text : String) : String := String.ofList (text.toList.takeWhile (· != '\n'))

namespace Ending

/-- **The ending of a run that fails**: no failure at all if it was a broken pipe. -/
def ofFailure (failure : Failure) : Ending :=
  if failure.isBrokenPipe then finished else failed failure

/-- The ending of a run whose output fails. -/
def ofOutputFault (fault : Fault) : Ending := ofFailure (.output fault)

/-- The ending of a run whose input fails. -/
def ofInputFault (fault : Fault) : Ending := ofFailure (.input fault)

/-- **The exit status.** -/
def exitStatus : Ending → Nat
  | finished => 0
  | failed _ => 1
  | wrongUsage _ => 2
  | crashed => 101

/-- **What is said** about the ending, in one line. -/
def complaint? : Ending → Option String
  | finished | crashed => none
  | wrongUsage error => some (firstLine ("error: " ++ error.message))
  | failed failure => some (name ++ ": " ++ failure.message)

end Ending

/-- **What can be seen of a run**: how it ended and what it wrote. -/
structure Outcome where
  ending : Ending
  stdout : ByteArray

end ProgressBar.Program
