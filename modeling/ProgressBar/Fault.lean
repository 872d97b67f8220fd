/-!
# Faults of the outside

Why bytes could not be written, flushed or read. A fault is only named here; what a program does
about one is told where it is met.
-/

namespace ProgressBar

/-- **A fault of input or output.** -/
inductive Fault where
  /-- A writer has taken all the bytes it takes. -/
  | writerFull
  | flushFailed
  /-- The device behind a writer has no room left. -/
  | noSpace
  /-- Nobody reads what is written any more. -/
  | brokenPipe
  /-- What should be read is a directory. -/
  | isDirectory
  /-- Any other fault, as the system describes it. -/
  | other (description : String)
  deriving DecidableEq, Repr

/-- The wording of a fault. -/
def Fault.message : Fault → String
  | .writerFull => "writer is full"
  | .flushFailed => "flush failed"
  | .noSpace => "No space left on device (os error 28)"
  | .brokenPipe => "Broken pipe (os error 32)"
  | .isDirectory => "Is a directory (os error 21)"
  | .other description => description

end ProgressBar
