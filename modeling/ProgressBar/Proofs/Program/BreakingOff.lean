import ProgressBar.Proofs.Iteration.Transcript
import ProgressBar.Proofs.Program.Precedence

/-!
# Input that breaks off

An input need not come to its end: it may break off with a fault, before its first byte or behind
any other. A **reading** is what can be read of an input, and the fault it breaks off with, if it
does. An input of the program is a reading of all its bytes, or of none and a fault.

**The law** (`runReading_leaves_line`): a run writes nothing, or ends the line it has written last,
except when its input breaks off while the bar is below its total. Then the line of the unfinished
bar is left to be drawn over by whatever comes next.

**What is left open** (`unreadable_leaves_line_open`): the first frame of a run that cannot read its
input at all.
-/

namespace ProgressBar.Program

open CommandLine (Settings)
open Iteration (EndsLine)

/-! ## Readings -/

/-- **What is read of an input**: some bytes, and then its end or a fault. -/
structure Reading where
  bytes : List UInt8
  fault? : Option Fault := none
  deriving DecidableEq

/-- What is read of an input that is there as a whole or not at all. -/
def Input.reading : Input → Reading
  | .bytes all => ⟨all, none⟩
  | .unreadable fault => ⟨[], some fault⟩

/-- **What an open session makes of a reading**: it is fed with the bytes, and finishes if the input
has come to its end. -/
def takeReading (session : Session) (reading : Reading) (console : Console) : Ending × Console :=
  match session.feed console reading.bytes with
  | (.error ending, console) => (ending, console)
  | (.ok session, console) =>
    match reading.fault? with
    | some fault => (.ofInputFault fault, console)
    | none => session.finish console

/-- A reading with a command line that was understood. -/
def readSettings (settings : Settings) (reading : Reading) (console : Console) :
    Ending × Console :=
  match openSession settings console with
  | (.ok session, console) => takeReading session reading console
  | (.error ending, console) => (ending, console)

/-- **A run of the program on a reading.** -/
def runReading (arguments : List String) (reading : Reading) (stdout : Sink) : Outcome :=
  let console : Console := { sink := stdout }
  let (ending, console) :=
    match CommandLine.read arguments with
    | .ok settings => readSettings settings reading console
    | .error stop => stopped stop console
  { ending, stdout := console.sink.taken }

/-- Reading an input of the usual kind is taking it: nothing is read of one that cannot be read. -/
theorem takeReading_reading (session : Session) (input : Input) (console : Console) :
    takeReading session input.reading console = takeInput session input console := by
  cases input with
  | bytes bytes =>
    rw [takeReading, takeInput, Input.reading]
    dsimp only
    split <;> simp_all only
  | unreadable fault => rfl

/-- So settings that are run on such a reading are run on the input itself. -/
theorem readSettings_reading (settings : Settings) (input : Input) (console : Console) :
    readSettings settings input.reading console = runSettings settings input console := by
  rw [readSettings, runSettings]
  split <;> simp_all only [takeReading_reading]

/-- **A run on an input is the run on what is read of it.** -/
theorem runReading_reading (arguments : List String) (input : Input) (stdout : Sink) :
    runReading arguments input.reading stdout = run arguments input stdout := by
  rw [runReading, run]
  cases CommandLine.read arguments with
  | ok settings => dsimp only; rw [readSettings_reading]
  | error stop => rfl

/-! ## How a text leaves its last line -/

/-- Text of which no line is left open: it ends its last line, or there is none. -/
def LineEnded (text : String) : Prop := text = "" ∨ EndsLine text

theorem not_lineEnded_return (before : String) : ¬ LineEnded (before ++ "\r") := by
  rintro (empty | ⟨front, same⟩)
  · exact absurd (String.append_eq_empty_iff.mp empty).2 (by decide)
  · have last := congrArg (fun text : String => text.toList.getLast?) same
    simp at last

/-- **A row of frames ends its last line** if the progress has reached the total there, and else
leaves it to be drawn over. -/
theorem draws_leaves_line (bar : Bar) (n : Nat) :
    (bar.total ≤ (bar.advance n).current ∧ EndsLine (bar.draws 0 (n + 1))) ∨
      ((bar.advance n).current < bar.total ∧ ∃ before, bar.draws 0 (n + 1) = before ++ "\r") := by
  have total : (bar.advance n).total = bar.total := rfl
  rw [Bar.draws_concat, Bar.drawnLine, total, ← String.append_assoc]
  by_cases complete : bar.total ≤ (bar.advance n).current
  · rw [if_pos complete]
    exact .inl ⟨complete, _, rfl⟩
  · rw [if_neg complete]
    exact .inr ⟨Int64.not_le.mp complete, _, rfl⟩

/-- Where the last line is left open, the end of a run ends it. -/
theorem endsLine_draws_lineEnd (bar : Bar) (n : Nat) :
    EndsLine (bar.draws 0 (n + 1) ++
      if (bar.advance n).current < bar.total then "\n" else "") := by
  rcases draws_leaves_line bar n with ⟨complete, ends⟩ | ⟨below, -⟩
  · rw [if_neg (Int64.not_lt.mpr complete), String.append_empty]
    exact ends
  · rw [if_pos below]
    exact ⟨_, rfl⟩

/-! ## Runs on a reading -/

/-- **A reading breaks off below the total**: there is a fault, and the records that are complete by
then do not fill the bar. -/
def BreaksOffBelow (arguments : List String) (reading : Reading) : Prop :=
  ∃ settings fault, ∃ positive : 0 < settings.total, CommandLine.read arguments = .ok settings ∧
    settings.delimiter.toNat < 0x80 ∧ reading.fault? = some fault ∧
    ((settings.bar positive).advance
      (reading.bytes.count settings.delimiter.toUInt8)).current < settings.total

section Runs

variable {arguments : List String} {settings : Settings} {reading : Reading} {stdout : Sink}
  {console : Console}

/-- A session that does not open reads nothing, so it cannot break off. -/
theorem readSettings_of_not_open {later : Console} {ending : Ending}
    (opens : openSession settings console = (.error ending, later)) :
    readSettings settings reading console = (ending, later) := by
  rw [readSettings, opens]

theorem runReading_of_read (read : CommandLine.read arguments = .ok settings) {ending : Ending}
    {later : Console} (runs : readSettings settings reading { sink := stdout } = (ending, later)) :
    runReading arguments reading stdout = ⟨ending, later.sink.taken⟩ := by
  rw [runReading, read]
  dsimp only
  rw [runs]

/-- A run that the command line stops does not come to its input. -/
theorem runReading_of_stop {stop : CommandLine.Stop}
    (read : CommandLine.read arguments = .error stop) (input : Input) :
    runReading arguments reading stdout = run arguments input stdout := by
  rw [runReading, run, read]

theorem not_breaksOffBelow_of_no_fault (whole : reading.fault? = none) :
    ¬ BreaksOffBelow arguments reading := by
  rintro ⟨_, fault, _, _, _, broken, _⟩
  rw [whole] at broken
  cases broken

/-- For given settings it can be counted whether a reading breaks off below the total: what counts
are the records that were ended before the fault. -/
theorem breaksOffBelow_iff (read : CommandLine.read arguments = .ok settings)
    (ascii : settings.delimiter.toNat < 0x80) (positive : 0 < settings.total)
    {bytes : List UInt8} {fault : Fault} :
    BreaksOffBelow arguments ⟨bytes, some fault⟩ ↔
      ((settings.bar positive).advance (bytes.count settings.delimiter.toUInt8)).current <
        settings.total := by
  refine ⟨?_, fun below => ⟨settings, fault, positive, read, ascii, rfl, below⟩⟩
  rintro ⟨other, _, _, same, _, _, below⟩
  rw [read] at same
  cases same
  exact below

/-- **An input that breaks off** leaves the frames of the records that were complete by then. -/
theorem readSettings_of_fault (ascii : settings.delimiter.toNat < 0x80)
    (positive : 0 < settings.total) (narrow : TrackFits settings.width)
    (works : console.sink.Works) (bytes : List UInt8) (fault : Fault) :
    ∃ later, readSettings settings ⟨bytes, some fault⟩ console =
        (.ofInputFault fault, later) ∧
      console.Prints
        ((settings.bar positive).draws 0 (bytes.count settings.delimiter.toUInt8 + 1)) later := by
  obtain ⟨opened, opens, prints⟩ := openSession_prints ascii positive narrow works
  have drawable : (settings.bar positive).Drawable := narrow
  obtain ⟨later, feeds, printsFed⟩ := Session.feed_prints settings.delimiter.toUInt8 [] bytes
    drawable prints.works
  refine ⟨later, ?_, ?_⟩
  · rw [readSettings, opens]
    dsimp only [takeReading]
    rw [feeds]
  · have joined := prints.trans printsFed
    rwa [List.count_nil, Bar.draws_append, Nat.add_comm] at joined

variable (reading) in
/-- **What is left of a run that draws**: a line that was ended, or the line of an unfinished bar
if its input breaks off. -/
theorem runReading_of_drawn (read : CommandLine.read arguments = .ok settings)
    (ascii : settings.delimiter.toNat < 0x80) (positive : 0 < settings.total)
    (narrow : TrackFits settings.width) (works : stdout.Works) :
    ∃ text, (runReading arguments reading stdout).stdout = stdout.taken ++ text.toUTF8 ∧
      ((¬ BreaksOffBelow arguments reading ∧ EndsLine text) ∨
        (BreaksOffBelow arguments reading ∧ ∃ before, text = before ++ "\r")) := by
  have ready : ({ sink := stdout } : Console).sink.Works := works
  obtain ⟨bytes, fault?⟩ := reading
  cases fault? with
  | none =>
    obtain ⟨later, runs, prints⟩ := runSettings_prints ascii positive narrow ready bytes
    rw [← readSettings_reading, Input.reading] at runs
    refine ⟨_, by rw [runReading_of_read read runs, prints.taken], ?_⟩
    exact .inl ⟨not_breaksOffBelow_of_no_fault rfl, endsLine_draws_lineEnd _ _⟩
  | some fault =>
    obtain ⟨later, runs, prints⟩ := readSettings_of_fault ascii positive narrow ready bytes fault
    refine ⟨_, by rw [runReading_of_read read runs, prints.taken], ?_⟩
    rw [breaksOffBelow_iff read ascii positive]
    rcases draws_leaves_line (settings.bar positive) (bytes.count settings.delimiter.toUInt8)
      with ⟨complete, ends⟩ | left
    · exact .inl ⟨Int64.not_lt.mpr complete, ends⟩
    · exact .inr left

variable (reading) in
/-- **A run that does not come to drawing** writes nothing, or the answer to an inquiry. -/
theorem runReading_of_not_drawn (works : stdout.Works)
    (undrawn : ∀ settings, CommandLine.read arguments = .ok settings →
      settings.delimiter.toNat < 0x80 → ¬ 0 < settings.total) :
    ∃ text, (runReading arguments reading stdout).stdout = stdout.taken ++ text.toUTF8 ∧
      LineEnded text := by
  have nothing (written : (runReading arguments reading stdout).stdout = stdout.taken) :
      ∃ text, (runReading arguments reading stdout).stdout = stdout.taken ++ text.toUTF8 ∧
        LineEnded text :=
    ⟨"", written.trans ByteArray.append_empty.symm, .inl rfl⟩
  cases read : CommandLine.read arguments with
  | ok settings =>
    by_cases ascii : settings.delimiter.toNat < 0x80
    · have notPositive := Int64.not_lt.mp (undrawn settings read ascii)
      have opens := openSession_of_not_positive ascii notPositive { sink := stdout }
      exact nothing (by rw [runReading_of_read read (readSettings_of_not_open opens)]; rfl)
    · have opens := openSession_of_not_ascii (Nat.not_lt.mp ascii) { sink := stdout }
      exact nothing (by rw [runReading_of_read read (readSettings_of_not_open opens)])
  | error stop =>
    rw [runReading_of_stop read (.bytes [])] at nothing ⊢
    cases stop with
    | wrong error => exact nothing (by rw [run_of_wrong _ _ read])
    | asked inquiry =>
      have behaves : stdout.Behaves none := works
      refine ⟨answer inquiry, by rw [run_of_asked _ _ read behaves, if_pos rfl], .inr ?_⟩
      cases inquiry
      · exact ⟨name ++ " " ++ version, rfl⟩
      · exact ⟨_, rfl⟩

end Runs

/-- **How a run leaves its last line.** Take any arguments, any reading of an input, and an output
that works. Only where it comes to drawing, the track has to fit. Then the run writes nothing or
ends the line it has written last, exactly if its input does not break off below the total. If it
does, what is written ends with the line of the unfinished bar, and that is left to be drawn over.
On what is read of an input, the run is the run on the input. -/
theorem runReading_leaves_line (arguments : List String) (reading : Reading) (stdout : Sink)
    (works : stdout.Works)
    (narrow : ∀ settings, CommandLine.read arguments = .ok settings →
      settings.delimiter.toNat < 0x80 → 0 < settings.total → TrackFits settings.width) :
    ∃ text, (runReading arguments reading stdout).stdout = stdout.taken ++ text.toUTF8 ∧
      (LineEnded text ↔ ¬ BreaksOffBelow arguments reading) ∧
      (BreaksOffBelow arguments reading → ∃ before, text = before ++ "\r") ∧
      ∀ input : Input, runReading arguments input.reading stdout = run arguments input stdout := by
  by_cases drawn : ∃ settings, CommandLine.read arguments = .ok settings ∧
      settings.delimiter.toNat < 0x80 ∧ 0 < settings.total
  · obtain ⟨settings, read, ascii, positive⟩ := drawn
    obtain ⟨text, written, left⟩ := runReading_of_drawn reading read ascii positive
      (narrow settings read ascii positive) works
    refine ⟨text, written, ?_, ?_, fun input => runReading_reading arguments input stdout⟩
    · rcases left with ⟨whole, ends⟩ | ⟨breaks, before, rfl⟩
      · exact iff_of_true (.inr ends) whole
      · exact iff_of_false (not_lineEnded_return before) (not_not_intro breaks)
    · intro breaks
      rcases left with ⟨whole, -⟩ | ⟨-, unfinished⟩
      · exact absurd breaks whole
      · exact unfinished
  · have undrawn settings (read : CommandLine.read arguments = .ok settings)
        (ascii : settings.delimiter.toNat < 0x80) : ¬ 0 < settings.total :=
      fun positive => drawn ⟨settings, read, ascii, positive⟩
    obtain ⟨text, written, ended⟩ := runReading_of_not_drawn reading works undrawn
    have whole : ¬ BreaksOffBelow arguments reading := by
      rintro ⟨settings, _, positive, read, ascii, _⟩
      exact undrawn settings read ascii positive
    exact ⟨text, written, iff_of_true ended whole, fun breaks => absurd breaks whole,
      fun input => runReading_reading arguments input stdout⟩

/-- A total of two, and an input that breaks off behind one record, and behind two. -/
theorem runReading_leaves_line_two_records :
    let arguments := ["--total=2", "--width=2", "--template=\x7bbar\x7d"]
    let settings : Settings := { total := 2, width := 2, template := "\x7bbar\x7d" }
    let one : Reading := ⟨[97, 10, 98], some (.other "Input/output error (os error 5)")⟩
    let two : Reading := ⟨[97, 10, 98, 10], some (.other "Input/output error (os error 5)")⟩
    CommandLine.read arguments = .ok settings ∧ TrackFits settings.width ∧ Sink.unlimited.Works ∧
      BreaksOffBelow arguments one ∧ ¬ BreaksOffBelow arguments two ∧
      (∃ before, (runReading arguments one .unlimited).stdout = (before ++ "\r").toUTF8) ∧
      ∃ text, (runReading arguments two .unlimited).stdout = text.toUTF8 ∧ LineEnded text := by
  intro arguments settings one two
  have read : CommandLine.read arguments = .ok settings := rfl
  have ascii : settings.delimiter.toNat < 0x80 := by decide
  have narrow : TrackFits settings.width := by decide
  have everyNarrow other (same : CommandLine.read arguments = .ok other)
      (_ : other.delimiter.toNat < 0x80) (_ : 0 < other.total) : TrackFits other.width := by
    rw [read] at same
    cases same
    exact narrow
  have below : BreaksOffBelow arguments one :=
    (breaksOffBelow_iff read ascii (by decide)).mpr (by decide)
  have filled : ¬ BreaksOffBelow arguments two :=
    mt (breaksOffBelow_iff read ascii (by decide)).mp (by decide)
  obtain ⟨_, written, -, leaves, -⟩ := runReading_leaves_line arguments one .unlimited
    Sink.works_unlimited everyNarrow
  obtain ⟨before, rfl⟩ := leaves below
  obtain ⟨text, writtenThen, ends, -, -⟩ := runReading_leaves_line arguments two .unlimited
    Sink.works_unlimited everyNarrow
  exact ⟨read, narrow, Sink.works_unlimited, below, filled,
    ⟨before, written.trans ByteArray.empty_append⟩,
    text, writtenThen.trans ByteArray.empty_append, ends.mpr filled⟩

/-- **A first frame left open**: the input is a directory, so nothing ends the line of the bar
before the complaint. -/
theorem unreadable_leaves_line_open :
    let arguments := ["--total", "4", "--width", "8"]
    let settings : Settings := { total := 4, width := 8 }
    let outcome := run arguments (.unreadable .isDirectory) .unlimited
    CommandLine.read arguments = .ok settings ∧ TrackFits settings.width ∧
      Sink.unlimited.Works ∧ outcome.ending = .failed (.input .isDirectory) ∧
      outcome.stdout = "[        ]  \r".toUTF8 ∧
      ¬ ∃ text, outcome.stdout = text.toUTF8 ∧ LineEnded text := by
  intro arguments settings outcome
  have read : CommandLine.read arguments = .ok settings := rfl
  have narrow : TrackFits settings.width := by decide
  have frame : (settings.bar (by decide)).line ++ "\r" = "[        ]  \r" := by decide +kernel
  have ran : outcome = _ := run_of_unreadable read (by decide) (by decide) narrow
    Sink.works_unlimited .isDirectory
  rw [frame] at ran
  have written : outcome.stdout = "[        ]  \r".toUTF8 := by
    rw [ran]
    exact ByteArray.empty_append
  refine ⟨read, narrow, Sink.works_unlimited, by rw [ran]; rfl, written, ?_⟩
  rintro ⟨text, same, ended⟩
  rw [written] at same
  rw [← String.toByteArray_inj.mp same] at ended
  exact not_lineEnded_return "[        ]  " ended

end ProgressBar.Program
