import ProgressBar.Proofs.Bar.Length
import ProgressBar.Proofs.Bar.Plain
import ProgressBar.Proofs.Program.Output

/-!
# Drawing in place

What is left on a screen that the output of a run was sent to. Below the total each frame goes back
to the start of the row, and the next is drawn over it; since no line is shorter than the one
before, nothing of a former frame is left. From the total on each frame keeps a row of its own.

**The law** (`ofText_run_output`): the screen holds the line of the last count that was drawn in
place, one row for every count beyond the total, and an empty row below them.

**What it does not establish.** A line with a carriage return or a line feed of its own, from the
template or the symbols of the track, is more than one row and is left aside.
-/

namespace ProgressBar

/-! ## Lines on a screen -/

namespace Screen

variable {screen : Screen} {text : List Char}

/-- **A line that goes back** and covers the row replaces it: nothing of the row is left, and the
cursor is at its start again. -/
theorem putAll_return_of_covers (plain : Plain text) (start : screen.column = 0)
    (covers : screen.row.length ≤ text.length) :
    screen.putAll (text ++ ['\r']) = { screen with row := text, column := 0 } := by
  rw [putAll_return plain start, List.drop_of_length_le covers, List.append_nil]

/-- **A line that is left** replaces the row, which is then above an empty one. -/
theorem putAll_feed_of_covers (plain : Plain text) (start : screen.column = 0)
    (covers : screen.row.length ≤ text.length) :
    screen.putAll (text ++ ['\n']) = { rows := screen.rows ++ [text] } := by
  rw [putAll_append, putAll_from_start plain start, List.drop_of_length_le covers,
    List.append_nil]
  rfl

end Screen

/-! ## Frames on a screen -/

namespace Bar

/-- The total of a bar as a plain number. -/
def goal (bar : Bar) : Nat := bar.total.toInt.toNat

/-- **The screen after the frames** up to a count: the lines from the total on have rows of their
own, and before that the last line is the row being written. -/
def screenAt (bar : Bar) (count : Nat) : Screen where
  rows := (List.range' bar.goal (count + 1 - bar.goal)).map fun n => (bar.lineAt n).toList
  row := if count < bar.goal then (bar.lineAt count).toList else []

variable {bar : Bar} {count last : Nat}

/-- Whether a count has reached the total can be asked with plain numbers, as rows are counted. -/
theorem toInt_total_le_iff : bar.total.toInt ≤ count ↔ bar.goal ≤ count := by
  have := bar.toInt_total_pos
  rw [goal]
  omega

theorem frames_zero : bar.frames 0 = bar.frameAt 0 := by
  rw [frames, List.range_one, List.map_cons, List.map_nil, String.join_cons, String.join_nil,
    String.append_empty]

theorem frames_succ : bar.frames (last + 1) = bar.frames last ++ bar.frameAt (last + 1) := by
  rw [frames, List.range_succ, List.map_append, String.join_append, ← frames, List.map_cons,
    List.map_nil, String.join_cons, String.join_nil, String.append_empty]

/-- **No line is shorter than the one before**, as far as the count fits. -/
theorem length_lineAt_succ (fits : (count + 1 : Nat) ≤ Int64.maxValue.toInt) :
    (bar.lineAt count).toList.length ≤ (bar.lineAt (count + 1)).toList.length := by
  have now : (Int64.ofNat count).toInt = count := toInt_ofNat (by omega)
  have next : (Int64.ofNat (count + 1)).toInt = (count + 1 : Nat) := toInt_ofNat fits
  apply length_line_setTo_mono <;> omega

/-- **A frame leads from the screen before to the screen of its count**, if it covers the row. -/
theorem putAll_frameAt {screen : Screen} (plain : bar.PlainLayout) (start : screen.column = 0)
    (covers : screen.row.length ≤ (bar.lineAt count).toList.length)
    (above : screen.rows =
      (List.range' bar.goal (count - bar.goal)).map fun n => (bar.lineAt n).toList) :
    screen.putAll (bar.frameAt count).toList = bar.screenAt count := by
  have plainLine : Plain (bar.lineAt count).toList := plain_line plain
  rw [frameAt, String.toList_append, screenAt]
  -- either way the line covers the row; only what ends it differs
  by_cases reached : bar.goal ≤ count
  · have longer : count + 1 - bar.goal = (count - bar.goal) + 1 := by omega
    have own : bar.goal + (count - bar.goal) = count := by omega
    rw [if_pos (toInt_total_le_iff.mpr reached), if_neg (by omega), longer, List.range'_1_concat,
      own, List.map_append, ← above]
    exact Screen.putAll_feed_of_covers plainLine start covers
  · have noRow : count + 1 - bar.goal = count - bar.goal := by omega
    rw [if_neg (mt toInt_total_le_iff.mp reached), if_pos (by omega), noRow, ← above]
    exact Screen.putAll_return_of_covers plainLine start covers

/-- **Frames sent to an empty screen** leave the screen of the last count. -/
theorem ofText_frames (plain : bar.PlainLayout) (fits : last ≤ Int64.maxValue.toInt) :
    Screen.ofText (bar.frames last) = bar.screenAt last := by
  induction last with
  | zero =>
    rw [frames_zero]
    exact putAll_frameAt plain rfl (Nat.zero_le _) (by rw [Nat.zero_sub]; rfl)
  | succ count ih =>
    have before := ih (by omega)
    rw [Screen.ofText] at before
    rw [frames_succ, Screen.ofText, String.toList_append, Screen.putAll_append, before]
    refine putAll_frameAt plain rfl ?_ rfl
    -- below the total the row holds the line before, and from there on it is empty
    rw [screenAt]
    dsimp only
    split
    · exact length_lineAt_succ fits
    · exact Nat.zero_le _

/-- The end of the last line leaves it above an empty row. -/
theorem ofText_frames_lineEnd (plain : bar.PlainLayout) (fits : last ≤ Int64.maxValue.toInt) :
    Screen.ofText (bar.frames last ++ bar.lineEnd last) =
      { rows := (bar.lineAt (min last bar.goal)).toList ::
          (List.range (last - bar.goal)).map fun j =>
            (bar.lineAt (bar.goal + (j + 1))).toList } := by
  have framed := ofText_frames plain fits
  rw [Screen.ofText] at framed
  rw [Screen.ofText, String.toList_append, Screen.putAll_append, framed, lineEnd]
  by_cases reached : bar.goal ≤ last
  · have longer : last + 1 - bar.goal = (last - bar.goal) + 1 := by omega
    rw [if_neg (Int.not_lt.mpr (toInt_total_le_iff.mpr reached)), screenAt, if_neg (by omega),
      longer, Nat.min_eq_right reached, List.range'_succ, List.range'_eq_map_range, List.map_cons,
      List.map_map]
    simp only [Function.comp_def, Nat.add_assoc, Nat.add_comm 1]
    rfl
  · have noRow : last + 1 - bar.goal = 0 := by omega
    have noMore : last - bar.goal = 0 := by omega
    rw [if_pos (Int.not_le.mp (mt toInt_total_le_iff.mp reached)), screenAt, if_pos (by omega),
      noRow, noMore, Nat.min_eq_left (by omega)]
    rfl

end Bar

/-! ## Whole runs -/

namespace Program

/-- **What a run leaves on a screen.** Take a command line that was understood, with an ASCII
delimiter, a positive total, a track that can be laid out and a plain layout, and an output that
works. On an input whose records can be counted, the screen shows the line of the bar at the number
of records, or at the total where there are more; below it a row for each record beyond the total,
with the line of its count; and last the empty row. -/
theorem ofText_run_output (arguments : List String) (settings : CommandLine.Settings)
    (read : CommandLine.read arguments = .ok settings) (ascii : settings.delimiter.toNat < 0x80)
    (positive : 0 < settings.total) (narrow : TrackFits settings.width)
    (plain : (settings.bar positive).PlainLayout) (stdout : Sink) (works : stdout.Works)
    (bytes : List UInt8)
    (countable : recordCount settings.delimiter.toUInt8 bytes ≤ Int64.maxValue.toInt) :
    let bar := settings.bar positive
    let goal := settings.total.toInt.toNat
    let records := recordCount settings.delimiter.toUInt8 bytes
    ∃ text, (run arguments (.bytes bytes) stdout).stdout = stdout.taken ++ text.toUTF8 ∧
      Screen.ofText text =
        { rows := (bar.lineAt (min records goal)).toList ::
            (List.range (records - goal)).map fun j => (bar.lineAt (goal + (j + 1))).toList
          row := []
          column := 0 } := by
  intro bar goal records
  refine ⟨bar.frames records ++ bar.lineEnd records, ?_, ?_⟩
  · rw [run_eq read ascii positive narrow works bytes countable]
  · exact Bar.ofText_frames_lineEnd plain countable

/-- Three records and a total of two: two shorter lines were drawn over, and one was left behind. -/
theorem ofText_run_output_three_records :
    let arguments := ["--total=2", "--percent", "--template=\x7bpercent\x7d"]
    let settings : CommandLine.Settings :=
      { total := 2, percent := true, template := "\x7bpercent\x7d" }
    CommandLine.read arguments = .ok settings ∧ settings.delimiter.toNat < 0x80 ∧
      TrackFits settings.width ∧ Sink.unlimited.Works ∧
      recordCount settings.delimiter.toUInt8 [97, 10, 10, 98] = 3 ∧
      (∃ positive : 0 < settings.total, (settings.bar positive).PlainLayout) ∧
      ∃ text, (run arguments (.bytes [97, 10, 10, 98]) .unlimited).stdout = text.toUTF8 ∧
        Screen.ofText text = { rows := ["100%".toList, "150%".toList] } := by
  intro arguments settings
  have read : CommandLine.read arguments = .ok settings := rfl
  have ascii : settings.delimiter.toNat < 0x80 := by decide
  have narrow : TrackFits settings.width := by decide
  have plain : (settings.bar (by decide)).PlainLayout := by decide
  have three : recordCount settings.delimiter.toUInt8 [97, 10, 10, 98] = 3 := by decide
  obtain ⟨text, written, shown⟩ := ofText_run_output arguments settings read ascii (by decide)
    narrow plain Sink.unlimited Sink.works_unlimited [97, 10, 10, 98] (by rw [three]; decide)
  rw [three] at shown
  refine ⟨read, ascii, narrow, Sink.works_unlimited, three, ⟨by decide, plain⟩, text,
    written.trans ByteArray.empty_append, ?_⟩
  rw [shown]
  decide +kernel

end Program

end ProgressBar
