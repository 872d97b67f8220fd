/-!
# Screens

What a reader sees of text that was sent to a terminal: rows of characters, of which the last is
being written. A carriage return goes back to the start of that row, a line feed leaves it and
starts a new one, and every other character takes the cell under the cursor, over whatever stood
there, and moves the cursor to the right.

**What it does not hold.** Rows have no end and are never scrolled away, every character is one cell
wide, and no other control has a meaning of its own.
-/

namespace ProgressBar

/-- **A screen**: the rows that were left, the oldest first, the row being written, and how many of
its cells stand before the cursor. -/
structure Screen where
  rows : List (List Char) := []
  row : List Char := []
  column : Nat := 0
  deriving DecidableEq, Repr

namespace Screen

/-- **A character is shown.** -/
def put (screen : Screen) (c : Char) : Screen :=
  if c = '\r' then { screen with column := 0 }
  else if c = '\n' then { rows := screen.rows ++ [screen.row], row := [], column := 0 }
  else
    { screen with
      row := screen.row.take screen.column ++ c :: screen.row.drop (screen.column + 1)
      column := screen.column + 1 }

/-- Some text is shown. -/
def putAll (screen : Screen) (text : List Char) : Screen := text.foldl put screen

/-- **The screen after some text** was sent to an empty one. -/
def ofText (text : String) : Screen := putAll {} text.toList

theorem putAll_append (screen : Screen) (first second : List Char) :
    screen.putAll (first ++ second) = (screen.putAll first).putAll second :=
  List.foldl_append

/-- **Plain text stands over what it covers** and leaves the rest of the row alone. -/
theorem putAll_of_plain {text : List Char} (plain : ∀ c ∈ text, c ≠ '\r' ∧ c ≠ '\n')
    (screen : Screen) (inside : screen.column ≤ screen.row.length) :
    screen.putAll text =
      { screen with
        row :=
          screen.row.take screen.column ++ text ++ screen.row.drop (screen.column + text.length)
        column := screen.column + text.length } := by
  induction text generalizing screen with
  | nil => simp [putAll]
  | cons c rest ih =>
    obtain ⟨notReturn, notFeed⟩ := plain c List.mem_cons_self
    have restPlain : ∀ d ∈ rest, d ≠ '\r' ∧ d ≠ '\n' :=
      fun d hd => plain d (List.mem_cons_of_mem c hd)
    have step : screen.putAll (c :: rest) = (screen.put c).putAll rest := rfl
    have before : (screen.row.take screen.column).length = screen.column := by
      rw [List.length_take, Nat.min_eq_left inside]
    rw [step, put, if_neg notReturn, if_neg notFeed, ih restPlain]
    · have kept : (screen.row.take screen.column ++ c :: screen.row.drop (screen.column + 1)).take
          (screen.column + 1) = screen.row.take screen.column ++ [c] := by
        rw [List.take_append, before, List.take_of_length_le (by omega), Nat.add_sub_cancel_left]
        rfl
      have left : (screen.row.take screen.column ++ c :: screen.row.drop (screen.column + 1)).drop
          (screen.column + 1 + rest.length) =
            screen.row.drop (screen.column + (c :: rest).length) := by
        rw [List.drop_append, before, List.drop_of_length_le (by omega), List.nil_append,
          show screen.column + 1 + rest.length - screen.column = rest.length + 1 by omega,
          List.drop_succ_cons, List.drop_drop, List.length_cons]
        congr 1
        omega
      dsimp only
      rw [kept, left, List.append_assoc (_ : List Char) [c] rest, List.singleton_append,
        List.length_cons, Nat.add_assoc, Nat.add_comm 1]
    · dsimp only
      rw [List.length_append, before, List.length_cons]
      omega

end Screen

end ProgressBar
