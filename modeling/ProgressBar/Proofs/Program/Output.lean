import ProgressBar.Program.Run
import ProgressBar.Proofs.Bar.Frames

/-!
# What a run writes

The output of a run whose command line was understood, on an output that works, told by the number
of records of its input. A session is followed byte by byte: what it is after some bytes is told by
the bytes alone (`Session.after`), so nothing has to be remembered of the way they were read.

**The law** (`run_output`): the output is the row of the bar's frames, one for every count from zero
to the number of records, and a line feed behind it when the total was not reached. What the records
hold does not matter.

**What it does not establish.** Faults of the output or the input, and inputs of more records than
the progress of a bar can count.
-/

namespace ProgressBar

/-! ## The bar of the settings -/

namespace CommandLine.Settings

/-- **The bar that settings with a positive total ask for.** -/
def bar (settings : Settings) (positive : 0 < settings.total) : Bar where
  fill := (settings.style.map Style.fill).getD settings.fill
  caps := settings.caps.getD ('[', ']')
  width := settings.width
  total := settings.total
  current := 0
  showsPercent := settings.percent
  showsCount := settings.count
  template := settings.template.getD Template.standard
  total_pos := positive

/-- **The bar is built as asked for**, whenever the total is positive. The style, if there is one,
has the last word on the symbol. -/
theorem build_eq (settings : Settings) (positive : 0 < settings.total) (console : Console) :
    settings.build console =
      (.ok (settings.bar positive), console.report (.built settings.width settings.total)) := by
  have built : Bar.ofConfig settings.config = .ok _ := dif_pos positive
  rw [build, Bar.build, built]
  rfl

end CommandLine.Settings

namespace Program

/-! ## Records -/

/-- Bytes that do not end with a delimiter, of which there is at least one. -/
def EndsMidRecord (delimiter : UInt8) (bytes : List UInt8) : Prop :=
  bytes ≠ [] ∧ bytes.getLast? ≠ some delimiter

instance (delimiter : UInt8) (bytes : List UInt8) : Decidable (EndsMidRecord delimiter bytes) :=
  inferInstanceAs (Decidable (_ ∧ _))

/-- **How many records there are in some bytes**: one for every delimiter, and one more when bytes
are left behind the last. -/
def recordCount (delimiter : UInt8) (bytes : List UInt8) : Nat :=
  bytes.count delimiter + if EndsMidRecord delimiter bytes then 1 else 0

/-- The last byte decides whether the input stops in the middle of a record: it does unless that
byte is a delimiter. -/
theorem endsMidRecord_concat {delimiter byte : UInt8} {past : List UInt8} :
    EndsMidRecord delimiter (past ++ [byte]) ↔ byte ≠ delimiter := by
  simp [EndsMidRecord]

/-- The first frame, a draw for each delimiter, and one for what stands behind the last of them are
as many draws as there are records, and one. -/
theorem draws_recordCount (bar : Bar) (delimiter : UInt8) (bytes : List UInt8) :
    bar.draws 0 1 ++ bar.draws 1 (bytes.count delimiter) ++
        bar.draws (bytes.count delimiter + 1) (if EndsMidRecord delimiter bytes then 1 else 0) =
      bar.draws 0 (recordCount delimiter bytes + 1) := by
  -- the three rows of lines lie end to end, so they are one row
  have first := bar.draws_append 0 1 (bytes.count delimiter)
  have whole := bar.draws_append 0 (bytes.count delimiter + 1)
    (if EndsMidRecord delimiter bytes then 1 else 0)
  rw [Nat.zero_add, Nat.add_comm] at first
  rw [Nat.zero_add, Nat.add_right_comm] at whole
  rw [first, whole, recordCount]

namespace Session

variable {bar : Bar} {delimiter : UInt8} {past : List UInt8} {console : Console}

/-! ## A session, byte by byte -/

/-- **A session after some bytes.** -/
def after (bar : Bar) (delimiter : UInt8) (past : List UInt8) : Session where
  bar := bar.advance (past.count delimiter)
  delimiter
  isMidRecord := EndsMidRecord delimiter past

/-- A session draws the line of its bar. -/
theorem draw_prints (session : Session) (drawable : session.bar.Drawable)
    (works : console.sink.Works) :
    ∃ later, session.draw console = (.ok (), later) ∧
      console.Prints session.bar.drawnLine later := by
  obtain ⟨later, drawn, prints⟩ := Bar.draw_of_works session.bar drawable works
  exact ⟨later, by rw [draw, drawn]; rfl, prints⟩

/-- **A record moves the bar and prints its line.** From there on the session is not in the middle
of a record. -/
theorem record_prints (session : Session) (drawable : session.bar.Drawable)
    (works : console.sink.Works) :
    ∃ later, session.record console =
        (.ok { session with bar := session.bar.tick, isMidRecord := false }, later) ∧
      console.Prints session.bar.tick.drawnLine later := by
  obtain ⟨later, drawn, prints⟩ := draw_prints
    { session with bar := session.bar.tick, isMidRecord := false } drawable works
  exact ⟨later, by rw [record, drawn]; rfl, prints⟩

/-- A delimiter ends a record, so the bar of a session ticks. -/
theorem after_delimiter :
    after bar delimiter (past ++ [delimiter]) =
      ⟨(after bar delimiter past).bar.tick, delimiter, false⟩ := by
  simp [after, endsMidRecord_concat, Bar.tick_advance]

/-- A session knows of the bytes before whether they stop in the middle of a record. -/
theorem isMidRecord_after :
    (after bar delimiter past).isMidRecord = true ↔ EndsMidRecord delimiter past :=
  decide_eq_true_iff

/-- Any other byte belongs to a record that has begun, and leaves the bar alone. -/
theorem after_other {byte : UInt8} (other : byte ≠ delimiter) :
    after bar delimiter (past ++ [byte]) =
      { after bar delimiter past with isMidRecord := true } := by
  simp [after, endsMidRecord_concat, other]

/-- **A byte takes a session after some bytes to the session after one more**, and prints a line if
it is the delimiter. -/
theorem readByte_prints (past : List UInt8) (byte : UInt8) (drawable : bar.Drawable)
    (works : console.sink.Works) :
    ∃ later, (after bar delimiter past).readByte byte console =
        (.ok (after bar delimiter (past ++ [byte])), later) ∧
      console.Prints (bar.draws (past.count delimiter + 1) ([byte].count delimiter)) later := by
  by_cases ends : byte = delimiter
  · subst ends
    obtain ⟨later, recorded, prints⟩ := record_prints (after bar byte past) drawable works
    refine ⟨later, ?_, ?_⟩
    · rw [after_delimiter]
      exact (if_pos rfl).trans recorded
    · rw [List.count_singleton_self, Bar.draws_one, ← Bar.advance_advance]
      exact prints
  · refine ⟨console, ?_, ?_⟩
    · rw [after_other ends]
      exact if_neg ends
    · rw [List.count_singleton, beq_false_of_ne ends]
      exact .refl works

/-- **Bytes take a session to the session after all of them**, and print a line for every delimiter
among them. -/
theorem feed_prints (delimiter : UInt8) (past bytes : List UInt8) (drawable : bar.Drawable)
    (works : console.sink.Works) :
    ∃ later, (after bar delimiter past).feed console bytes =
        (.ok (after bar delimiter (past ++ bytes)), later) ∧
      console.Prints (bar.draws (past.count delimiter + 1) (bytes.count delimiter)) later := by
  -- the past takes the bytes over one by one, and says which line is the next
  induction bytes generalizing past console with
  | nil => exact ⟨console, by rw [feed, List.append_nil], .refl works⟩
  | cons byte rest ih =>
    obtain ⟨middle, read, prints⟩ := readByte_prints past byte drawable works
    obtain ⟨later, fed, printsRest⟩ := ih (past ++ [byte]) prints.works
    rw [List.append_assoc, List.singleton_append] at fed
    refine ⟨later, by rw [feed, read]; exact fed, ?_⟩
    have joined := prints.trans printsRest
    rwa [List.count_append, Nat.add_right_comm, Bar.draws_append, ← List.count_append,
      List.singleton_append] at joined

/-- At the end a line feed is printed exactly if the bar is unfinished, to leave the cursor below
it. -/
theorem endLine_prints (session : Session) (works : console.sink.Works) :
    ∃ later, session.endLine console = (.finished, later) ∧
      console.Prints (if session.bar.current < session.bar.total then "\n" else "") later := by
  rw [endLine]
  by_cases complete : session.bar.total ≤ session.bar.current
  · rw [if_pos (session.bar.isComplete_iff.mpr complete), if_neg (Int64.not_lt.mpr complete)]
    exact ⟨console, rfl, .refl works⟩
  · obtain ⟨later, written, prints⟩ := console.write_of_works ["\n"] works
    rw [if_neg (mt session.bar.isComplete_iff.mp complete), if_pos (Int64.not_le.mp complete),
      written]
    exact ⟨later, rfl, prints⟩

/-- **The end of the input ends the last record**, if it has no end of its own, and then the
line. -/
theorem finish_prints (delimiter : UInt8) (past : List UInt8) (drawable : bar.Drawable)
    (works : console.sink.Works) :
    ∃ later, (after bar delimiter past).finish console = (.finished, later) ∧
      console.Prints (bar.draws (past.count delimiter + 1)
          (if EndsMidRecord delimiter past then 1 else 0) ++
        if (bar.advance (recordCount delimiter past)).current < bar.total then "\n" else "")
        later := by
  rw [finish, recordCount]
  by_cases middle : EndsMidRecord delimiter past
  · obtain ⟨drawn, recorded, prints⟩ := record_prints (after bar delimiter past) drawable works
    obtain ⟨later, ended, printsEnd⟩ := endLine_prints
      { after bar delimiter past with
        bar := (after bar delimiter past).bar.tick, isMidRecord := false } prints.works
    refine ⟨later, ?_, ?_⟩
    · rw [if_pos (isMidRecord_after.mpr middle), recorded]
      exact ended
    · rw [if_pos middle, Bar.draws_one, ← Bar.advance_advance]
      exact prints.trans printsEnd
  · obtain ⟨later, ended, printsEnd⟩ := endLine_prints (after bar delimiter past) works
    refine ⟨later, ?_, ?_⟩
    · rw [if_neg (mt isMidRecord_after.mp middle)]
      exact ended
    · rw [if_neg middle, Bar.draws_zero, String.empty_append]
      exact printsEnd

end Session

/-! ## Whole runs -/

section Run

variable {settings : CommandLine.Settings} {console : Console}

/-- **The session is made as asked for**, whenever the delimiter is ASCII and the total positive. -/
theorem ofSettings_eq (ascii : settings.delimiter.toNat < 0x80) (positive : 0 < settings.total)
    (console : Console) :
    Session.ofSettings settings console =
      (.ok (.after (settings.bar positive) settings.delimiter.toUInt8 []),
        console.report (.built settings.width settings.total)) := by
  rw [Session.ofSettings, if_pos ascii, settings.build_eq positive, Session.after, List.count_nil,
    Bar.advance_zero]
  rfl

/-- **A session opens with the first frame**, which is drawn before anything is read. -/
theorem openSession_prints (ascii : settings.delimiter.toNat < 0x80) (positive : 0 < settings.total)
    (narrow : TrackFits settings.width) (works : console.sink.Works) :
    ∃ later, openSession settings console =
        (.ok (.after (settings.bar positive) settings.delimiter.toUInt8 []), later) ∧
      console.Prints ((settings.bar positive).draws 0 1) later := by
  have reported : (console.report (.built settings.width settings.total)).sink.Works := works
  obtain ⟨later, drawn, prints⟩ := Session.draw_prints
    (.after (settings.bar positive) settings.delimiter.toUInt8 []) narrow reported
  refine ⟨later, ?_, prints.works, ?_⟩
  · rw [openSession, ofSettings_eq ascii positive]
    dsimp only
    rw [drawn]
    rfl
  · rw [Bar.draws_one]
    exact prints.taken

/-- **What a run of settings prints**: a line for every number of steps up to that of the records,
and the end of the last. No number of records is too great for it, though the progress may pass the
greatest number there is. -/
theorem runSettings_prints (ascii : settings.delimiter.toNat < 0x80)
    (positive : 0 < settings.total) (narrow : TrackFits settings.width)
    (works : console.sink.Works) (bytes : List UInt8) :
    let bar := settings.bar positive
    let records := recordCount settings.delimiter.toUInt8 bytes
    ∃ later, runSettings settings (.bytes bytes) console = (.finished, later) ∧
      console.Prints
        (bar.draws 0 (records + 1) ++
          if (bar.advance records).current < bar.total then "\n" else "") later := by
  intro bar records
  obtain ⟨opened, opens, prints⟩ := openSession_prints ascii positive narrow works
  have drawable : bar.Drawable := narrow
  obtain ⟨fed, feeds, printsFed⟩ := Session.feed_prints settings.delimiter.toUInt8 [] bytes
    drawable prints.works
  obtain ⟨later, finishes, printsLast⟩ := Session.finish_prints settings.delimiter.toUInt8 bytes
    drawable printsFed.works
  refine ⟨later, ?_, ?_⟩
  · rw [runSettings, opens]
    dsimp only [takeInput]
    rw [feeds]
    exact finishes
  · have joined := (prints.trans printsFed).trans printsLast
    have counted := draws_recordCount bar settings.delimiter.toUInt8 bytes
    rw [← String.append_assoc, List.count_nil, Nat.zero_add, counted] at joined
    exact joined

/-- **A run is one of its settings**, once its command line was understood; the arguments are not
looked at again. -/
theorem run_of_read {arguments : List String} (read : CommandLine.read arguments = .ok settings)
    {input : Input} {stdout : Sink} {ending : Ending} {later : Console}
    (runs : runSettings settings input { sink := stdout } = (ending, later)) :
    run arguments input stdout = ⟨ending, later.sink.taken⟩ := by
  rw [run, read]
  dsimp only
  rw [runs]

/-- **A run is told by the number of its records.** What is in them makes no difference, nor does a
last record without a delimiter. -/
theorem run_draws {arguments : List String} (read : CommandLine.read arguments = .ok settings)
    (ascii : settings.delimiter.toNat < 0x80) (positive : 0 < settings.total)
    (narrow : TrackFits settings.width) {stdout : Sink} (works : stdout.Works)
    (bytes : List UInt8) :
    let bar := settings.bar positive
    let records := recordCount settings.delimiter.toUInt8 bytes
    run arguments (.bytes bytes) stdout =
      ⟨.finished, stdout.taken ++
        (bar.draws 0 (records + 1) ++
          if (bar.advance records).current < bar.total then "\n" else "").toUTF8⟩ := by
  intro bar records
  have ready : ({ sink := stdout } : Console).sink.Works := works
  obtain ⟨later, runs, prints⟩ := runSettings_prints ascii positive narrow ready bytes
  rw [run_of_read read runs, prints.taken]

/-- As long as the records can be counted, what is drawn are the frames of the counts. -/
theorem run_eq {arguments : List String} (read : CommandLine.read arguments = .ok settings)
    (ascii : settings.delimiter.toNat < 0x80) (positive : 0 < settings.total)
    (narrow : TrackFits settings.width) {stdout : Sink} (works : stdout.Works)
    (bytes : List UInt8)
    (countable : recordCount settings.delimiter.toUInt8 bytes ≤ Int64.maxValue.toInt) :
    let records := recordCount settings.delimiter.toUInt8 bytes
    run arguments (.bytes bytes) stdout =
      ⟨.finished, stdout.taken ++
        ((settings.bar positive).frames records ++
          (settings.bar positive).lineEnd records).toUTF8⟩ := by
  intro records
  rw [run_draws read ascii positive narrow works bytes, Bar.draws_eq_frames rfl countable,
    Bar.lineEnd_eq rfl countable]

end Run

/-- **The output of a run.** Take a command line that was understood, with an ASCII delimiter, a
positive total and a track that can be laid out, and an output that works. Then the run ends well
and without complaint on every input whose records can be counted. It writes the frames of all
counts up to the number of records, and a line feed behind them if that is below the total. So
inputs of as many records have the same output. -/
theorem run_output (arguments : List String) (settings : CommandLine.Settings)
    (read : CommandLine.read arguments = .ok settings) (ascii : settings.delimiter.toNat < 0x80)
    (positive : 0 < settings.total) (narrow : TrackFits settings.width) (stdout : Sink)
    (works : stdout.Works) (bytes : List UInt8)
    (countable : recordCount settings.delimiter.toUInt8 bytes ≤ Int64.maxValue.toInt) :
    let bar := settings.bar positive
    let records := recordCount settings.delimiter.toUInt8 bytes
    let outcome := run arguments (.bytes bytes) stdout
    (settings.build { sink := stdout }).1 = .ok bar ∧
      outcome.ending.exitStatus = 0 ∧ outcome.ending.complaint? = none ∧
      outcome.stdout = stdout.taken ++ (bar.frames records ++ bar.lineEnd records).toUTF8 ∧
      ∀ others, recordCount settings.delimiter.toUInt8 others = records →
        (run arguments (.bytes others) stdout).stdout = outcome.stdout := by
  intro bar records outcome
  have own : outcome = _ := run_eq read ascii positive narrow works bytes countable
  rw [own]
  refine ⟨by rw [settings.build_eq positive], rfl, rfl, rfl, ?_⟩
  intro others alike
  rw [run_eq read ascii positive narrow works others (alike ▸ countable), alike]

/-- Three records, of which the second is empty and the third has no end, and a total of two. -/
theorem run_output_three_records :
    let arguments := ["--total=2", "--width=2", "--template=\x7bbar\x7d"]
    let settings : CommandLine.Settings := { total := 2, width := 2, template := "\x7bbar\x7d" }
    CommandLine.read arguments = .ok settings ∧ settings.delimiter.toNat < 0x80 ∧
      0 < settings.total ∧ TrackFits settings.width ∧ Sink.unlimited.Works ∧
      recordCount settings.delimiter.toUInt8 [97, 10, 10, 98] = 3 ∧
      (run arguments (.bytes [97, 10, 10, 98]) .unlimited).stdout =
        "[  ]\r[# ]\r[##]\n[##]\n".toUTF8 := by
  intro arguments settings
  have read : CommandLine.read arguments = .ok settings := rfl
  have ascii : settings.delimiter.toNat < 0x80 := by decide
  have positive : 0 < settings.total := by decide
  have narrow : TrackFits settings.width := by decide
  have three : recordCount settings.delimiter.toUInt8 [97, 10, 10, 98] = 3 := by decide
  obtain ⟨-, -, -, written, -⟩ := run_output arguments settings read ascii positive narrow
    Sink.unlimited Sink.works_unlimited [97, 10, 10, 98] (by rw [three]; decide)
  have text : (settings.bar (by decide)).frames 3 ++ (settings.bar (by decide)).lineEnd 3 =
      "[  ]\r[# ]\r[##]\n[##]\n" := by decide +kernel
  rw [three, text] at written
  exact ⟨read, ascii, positive, narrow, Sink.works_unlimited, three,
    written.trans ByteArray.empty_append⟩

end Program

end ProgressBar
