import ProgressBar.Bar.Edit
import ProgressBar.Proofs.Bar.Length
import ProgressBar.Proofs.Bar.Plain
import ProgressBar.Proofs.Printing

/-!
# Lines drawn over each other

As long as a bar is below its total, each draw goes back to the start of its row, and the next line
is drawn over it. Nothing is blanked: a line covers as many cells as it has characters, and what
stood further right stays.

**The law** (`shown_after_moves`): after the progress was moved and drawn any number of times, the
row shows each line as far as no later one reaches. So it is the last line alone exactly when no
earlier one was longer, which is so if no earlier progress was negative or greater.

**What is left over** (`shorter_line_leaves_rest`): a counter that falls by a digit does not cover
itself.
-/

namespace ProgressBar

/-! ## Rows -/

namespace Screen

/-- **A row after a line was drawn over it** from its start. -/
def drawOver (row line : List Char) : List Char := line ++ row.drop line.length

/-- A row that is drawn over is as long as the longer of the two: what a shorter line does not reach
stays. -/
theorem length_drawOver (row line : List Char) :
    (drawOver row line).length = max row.length line.length := by
  rw [drawOver, List.length_append, List.length_drop]
  omega

/-- **A line stands alone** just when it covers the row, that is when it is no shorter than what
stands there. -/
theorem drawOver_eq_iff {row line : List Char} :
    drawOver row line = line ↔ row.length ≤ line.length := by
  rw [drawOver, List.append_right_eq_self, List.drop_eq_nil_iff]

/-- **No line and no row is forgotten**: a row is as long as the longest line that was drawn over
it, or longer to begin with. -/
theorem length_foldl_drawOver_le_iff {row : List Char} {lines : List (List Char)} {n : Nat} :
    (lines.foldl drawOver row).length ≤ n ↔
      row.length ≤ n ∧ ∀ line ∈ lines, line.length ≤ n := by
  induction lines generalizing row with
  | nil => simp
  | cons line rest ih =>
    rw [List.foldl_cons, ih, length_drawOver, List.forall_mem_cons, Nat.max_le, and_assoc]

end Screen

/-! ## Moves -/

/-- **A move of the progress**: set to a value, or one step forward. -/
inductive Move where
  | update (value : Int64)
  | tick
  deriving DecidableEq, Repr

/-- A move is one of the changes that can be made to a bar. -/
def Move.edit : Move → Edit
  | .update value => .setCurrent value
  | .tick => .advance 1

namespace Bar

/-- **A bar after a move.** -/
def move (bar : Bar) (move : Move) : Bar := bar.editOrKeep move.edit

/-- **A bar after each of several moves**, the first one first. -/
def movedBy (bar : Bar) : List Move → List Bar
  | [] => []
  | move :: rest => bar.move move :: (bar.move move).movedBy rest

/-- **Several moves, with a draw after each** up to the first that does not succeed. -/
def drawMoves (bar : Bar) (console : Console) : List Move → Except DrawError Unit × Console
  | [] => (.ok (), console)
  | move :: rest =>
    match (bar.move move).draw console with
    | (.ok (), console) => (bar.move move).drawMoves console rest
    | (.error error, console) => (.error error, console)

/-- A move changes nothing of a bar but its progress. -/
theorem move_eq_setTo (bar : Bar) (move : Move) :
    bar.move move = bar.setTo (bar.move move).current := by
  cases move <;> rfl

/-- **Moves change the progress alone**, so every bar on the way is the first one set to another
progress. -/
theorem eq_setTo_of_mem_movedBy {bar moved : Bar} {moves : List Move}
    (mem : moved ∈ bar.movedBy moves) : moved = bar.setTo moved.current := by
  induction moves generalizing bar with
  | nil => cases mem
  | cons move rest ih =>
    rcases List.mem_cons.mp mem with rfl | later
    · exact bar.move_eq_setTo move
    · rw [ih later, move_eq_setTo]
      rfl

/-- Moves in two parts: the second part begins with the bar as the first has left it. -/
theorem movedBy_append (bar : Bar) (moves more : List Move) :
    bar.movedBy (moves ++ more) =
      bar.movedBy moves ++ (moves.foldl Bar.move bar).movedBy more := by
  induction moves generalizing bar with
  | nil => rfl
  | cons move rest ih => rw [List.cons_append, movedBy, ih, movedBy]; rfl

/-- **Moves on a working sink** print the line of every bar on the way. -/
theorem drawMoves_prints (bar : Bar) (console : Console) (moves : List Move)
    (drawable : bar.Drawable) (works : console.sink.Works) :
    ∃ after, bar.drawMoves console moves = (.ok (), after) ∧
      console.Prints (String.join ((bar.movedBy moves).map drawnLine)) after := by
  induction moves generalizing bar console with
  | nil => exact ⟨console, rfl, .refl works⟩
  | cons move rest ih =>
    have still : (bar.move move).Drawable := by
      rw [move_eq_setTo]
      exact drawable
    obtain ⟨middle, drawn, prints⟩ := (bar.move move).draw_of_works still works
    obtain ⟨after, drawnRest, printsRest⟩ := ih (bar.move move) middle still prints.works
    refine ⟨after, ?_, ?_⟩
    · rw [drawMoves, drawn]
      exact drawnRest
    · rw [movedBy, List.map_cons, String.join_cons]
      exact prints.trans printsRest

/-- The line of an unfinished bar is drawn with a carriage return behind it, so the next line begins
in the same row. -/
theorem drawnLine_of_below {bar : Bar} (below : bar.current < bar.total) :
    bar.drawnLine.toList = bar.line.toList ++ ['\r'] := by
  rw [drawnLine, if_neg (Int64.not_le.mpr below), String.toList_append]
  rfl

/-- **Lines below the total** are drawn one over the other: each ends with a carriage return, and
the cursor stays in its row. The induction is on the lines, for any row that is there before. -/
theorem putAll_drawnLines {bars : List Bar} (plain : ∀ bar ∈ bars, bar.PlainLayout)
    (below : ∀ bar ∈ bars, bar.current < bar.total) {screen : Screen}
    (start : screen.column = 0) :
    screen.putAll (String.join (bars.map drawnLine)).toList =
      { screen with
        row := (bars.map fun bar => bar.line.toList).foldl Screen.drawOver screen.row
        column := 0 } := by
  induction bars generalizing screen with
  | nil => rw [← start]; rfl
  | cons bar rest ih =>
    obtain ⟨plainFirst, plainRest⟩ := List.forall_mem_cons.mp plain
    obtain ⟨belowFirst, belowRest⟩ := List.forall_mem_cons.mp below
    have first : screen.putAll bar.drawnLine.toList =
        { screen with row := Screen.drawOver screen.row bar.line.toList, column := 0 } := by
      rw [drawnLine_of_below belowFirst]
      exact Screen.putAll_return (plain_line plainFirst) start
    rw [List.map_cons, String.join_cons, String.toList_append, Screen.putAll_append, first,
      ih plainRest belowRest rfl, List.map_cons, List.foldl_cons]

section Last

variable {bars : List Bar} {last : Bar}

/-- **The last line stands over the rows of the lines before.** Where it is shorter than one of
them, the rest of that one is still to be seen behind it. -/
theorem ofText_drawnLines (plain : ∀ bar ∈ bars ++ [last], bar.PlainLayout)
    (below : ∀ bar ∈ bars ++ [last], bar.current < bar.total) :
    Screen.ofText (String.join ((bars ++ [last]).map drawnLine)) =
      { row := Screen.drawOver ((bars.map fun bar => bar.line.toList).foldl Screen.drawOver [])
          last.line.toList } := by
  rw [Screen.ofText, putAll_drawnLines plain below rfl, List.map_append, List.foldl_append]
  rfl

/-- **The last line is all that is shown** just when no line before was longer. -/
theorem ofText_drawnLines_eq_line_iff (plain : ∀ bar ∈ bars ++ [last], bar.PlainLayout)
    (below : ∀ bar ∈ bars ++ [last], bar.current < bar.total) :
    Screen.ofText (String.join ((bars ++ [last]).map drawnLine)) = { row := last.line.toList } ↔
      ∀ bar ∈ bars, bar.line.toList.length ≤ last.line.toList.length := by
  rw [ofText_drawnLines plain below, Screen.mk.injEq]
  simp [Screen.drawOver_eq_iff, Screen.length_foldl_drawOver_le_iff]

end Last

/-- **Where the progress is moved and drawn again and again below the total.** Every draw succeeds;
the screen stays on one row, on which the last line stands over the rows of the lines before. It is
all that is shown exactly when no earlier line was longer. That is so if every earlier progress lay
between zero and the last. -/
theorem shown_after_moves (bar : Bar) (moves : List Move) (last : Move) (console : Console)
    (drawable : bar.Drawable) (plain : bar.PlainLayout) (works : console.sink.Works)
    (below : ∀ moved ∈ bar.movedBy (moves ++ [last]), moved.current < moved.total) :
    let earlier := bar.movedBy moves
    let final := (moves.foldl Bar.move bar).move last
    ∃ after text, bar.drawMoves console (moves ++ [last]) = (.ok (), after) ∧
      console.Prints text after ∧
      Screen.ofText text =
        { row := Screen.drawOver
            ((earlier.map fun moved => moved.line.toList).foldl Screen.drawOver [])
            final.line.toList } ∧
      (Screen.ofText text = { row := final.line.toList } ↔
        ∀ moved ∈ earlier, moved.line.toList.length ≤ final.line.toList.length) ∧
      ((∀ moved ∈ earlier, 0 ≤ moved.current ∧ moved.current ≤ final.current) →
        Screen.ofText text = { row := final.line.toList }) := by
  intro earlier final
  have all : bar.movedBy (moves ++ [last]) = earlier ++ [final] := bar.movedBy_append moves [last]
  have moved_eq (moved : Bar) (mem : moved ∈ earlier ++ [final]) :
      moved = bar.setTo moved.current := eq_setTo_of_mem_movedBy (by rwa [all])
  have plainAll : ∀ moved ∈ earlier ++ [final], moved.PlainLayout := by
    intro moved mem
    rw [moved_eq moved mem]
    exact plain
  obtain ⟨after, drawn, prints⟩ := bar.drawMoves_prints console (moves ++ [last]) drawable works
  rw [all] at prints below
  have alone := ofText_drawnLines_eq_line_iff plainAll below
  refine ⟨after, _, drawn, prints, ofText_drawnLines plainAll below, alone, fun between =>
    alone.mpr fun moved mem => ?_⟩
  -- both are the bar itself at another progress, so the length of its lines tells
  obtain ⟨nonneg, le⟩ := between moved mem
  rw [moved_eq moved (List.mem_append_left _ mem),
    moved_eq final (List.mem_append_right earlier List.mem_cons_self)]
  exact length_line_setTo_mono (Int64.le_iff_toInt_le.mp nonneg) (Int64.le_iff_toInt_le.mp le)

/-- A counter and a percentage that grow by a digit each, and end alone on the row. -/
theorem shown_after_moves_growing :
    let bar : Bar := ⟨'#', ('[', ']'), 4, 120, -7, true, true, "\x7bpercent\x7d \x7bcount\x7d",
      by decide⟩
    let moves : List Move := [.update 9, .tick]
    bar.Drawable ∧ bar.PlainLayout ∧ Sink.unlimited.Works ∧
      (∀ moved ∈ bar.movedBy (moves ++ [.update 99]), moved.current < moved.total) ∧
      ∃ after text, bar.drawMoves {} (moves ++ [.update 99]) = (.ok (), after) ∧
        Console.Prints {} text after ∧ Screen.ofText text = { row := "82% 99/120".toList } := by
  intro bar moves
  have drawable : bar.Drawable := by decide
  have plain : bar.PlainLayout := by decide
  have below : ∀ moved ∈ bar.movedBy (moves ++ [.update 99]), moved.current < moved.total := by
    decide
  obtain ⟨after, text, drawn, prints, -, -, alone⟩ :=
    shown_after_moves bar moves (.update 99) {} drawable plain Sink.works_unlimited below
  have line : ((moves.foldl Bar.move bar).move (.update 99)).line.toList = "82% 99/120".toList := by
    decide +kernel
  rw [line] at alone
  exact ⟨drawable, plain, Sink.works_unlimited, below, after, text, drawn, prints,
    alone (by decide)⟩

/-- **A counter that falls by a digit** leaves the last digit of the total behind itself. -/
theorem shorter_line_leaves_rest :
    let bar : Bar := ⟨'#', ('[', ']'), 4, 99, 0, false, true, "\x7bcount\x7d", by decide⟩
    let moves : List Move := [.update 10, .update 5]
    bar.Drawable ∧ bar.PlainLayout ∧ Sink.unlimited.Works ∧
      (∀ moved ∈ bar.movedBy moves, moved.current < moved.total) ∧
      (moves.foldl Bar.move bar).line = "5/99" ∧
      ∃ after, bar.drawMoves {} moves = (.ok (), after) ∧
        Console.Prints {} "10/99\r5/99\r" after ∧
        Screen.ofText "10/99\r5/99\r" = { row := "5/999".toList } := by
  intro bar moves
  have drawable : bar.Drawable := by decide
  have printed : String.join ((bar.movedBy moves).map drawnLine) = "10/99\r5/99\r" := by
    decide +kernel
  obtain ⟨after, drawn, prints⟩ := bar.drawMoves_prints {} moves drawable
    Sink.works_unlimited
  rw [printed] at prints
  exact ⟨drawable, by decide, Sink.works_unlimited, by decide, by decide +kernel, after, drawn,
    prints, by decide +kernel⟩

end Bar

end ProgressBar
