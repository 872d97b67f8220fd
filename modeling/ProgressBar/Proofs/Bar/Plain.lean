import ProgressBar.Bar.Line
import ProgressBar.Screen

/-!
# Lines that keep to their row

Text is **plain** when it has neither a carriage return nor a line feed. Sent to a screen it goes on
to the right from where it begins and stays on its row.

**The law** (`Bar.plain_line`): the line of a bar is plain when its layout is, that is the template
and the symbols of the track. Nothing that is filled in adds a return or a feed of its own. Sent to
the start of a row, a plain line stands over as much of it as the line is long
(`Screen.putAll_from_start`).
-/

namespace ProgressBar

/-- **Plain text**: it stays on its row and goes on to the right. -/
def Plain (text : List Char) : Prop := ∀ c ∈ text, c ≠ '\r' ∧ c ≠ '\n'

instance (text : List Char) : Decidable (Plain text) := List.decidableBAll _ text

theorem plain_append {first second : List Char} (firstPlain : Plain first)
    (secondPlain : Plain second) : Plain (first ++ second) :=
  List.forall_mem_append.mpr ⟨firstPlain, secondPlain⟩

/-- **A decimal number** is made of digits and, below zero, a minus sign. -/
theorem mem_decimal {n : Int64} {c : Char} (mem : c ∈ decimal n) : c = '-' ∨ c.isDigit = true := by
  rw [decimal] at mem
  cases whole : n.toInt with
  | ofNat m =>
    have written : toString (Int.ofNat m) = m.repr := rfl
    rw [whole, written, Nat.toList_repr] at mem
    exact .inr (Nat.isDigit_of_mem_toDigits (by decide) (by decide) mem)
  | negSucc m =>
    have written : toString (Int.negSucc m) = "-" ++ (m + 1).repr := rfl
    rw [whole, written, String.toList_append, Nat.toList_repr] at mem
    rcases List.mem_append.mp mem with sign | digit
    · exact .inl (List.mem_singleton.mp sign)
    · exact .inr (Nat.isDigit_of_mem_toDigits (by decide) (by decide) digit)

/-- A character that is neither a digit nor a minus sign stands in no decimal number. -/
theorem not_mem_decimal {c : Char} (sign : c ≠ '-') (digit : c.isDigit = false) (n : Int64) :
    c ∉ decimal n := by
  intro mem
  rcases mem_decimal mem with minus | isDigit
  · exact sign minus
  · exact absurd isDigit (Bool.eq_false_iff.mp digit)

/-- A number is spelled with digits and perhaps a dash, all of them plain. -/
theorem plain_decimal (n : Int64) : Plain (decimal n) := by
  intro c mem
  constructor <;> rintro rfl <;> exact not_mem_decimal (by decide) (by decide) n mem

/-- Every character of a filled template comes from the template or from what stands in one of its
slots. -/
theorem Template.mem_fill {texts : Slot → List Char} {template : List Char} {c : Char}
    (mem : c ∈ fill texts template) : c ∈ template ∨ ∃ slot, c ∈ texts slot := by
  obtain ⟨piece, pieceMem, inPiece⟩ := List.mem_flatMap.mp mem
  cases piece with
  | literal d =>
    rw [← spelling_pieces template]
    exact .inl (List.mem_flatMap.mpr ⟨.literal d, pieceMem, inPiece⟩)
  | slot slot => exact .inr ⟨slot, inPiece⟩

namespace Bar

/-- **A bar whose layout is plain**: its template and the symbols of its track. -/
def PlainLayout (bar : Bar) : Prop :=
  Plain (bar.fill :: bar.caps.1 :: bar.caps.2 :: bar.template.toList)

instance (bar : Bar) : Decidable bar.PlainLayout :=
  inferInstanceAs (Decidable (Plain _))

variable {bar : Bar}

/-- With a plain symbol and plain caps, all that a bar puts into its slots is plain. -/
theorem plain_slotText (plain : bar.PlainLayout) (slot : Slot) : Plain (bar.slotText slot) := by
  obtain ⟨fillPlain, rest⟩ := List.forall_mem_cons.mp plain
  obtain ⟨firstPlain, rest⟩ := List.forall_mem_cons.mp rest
  obtain ⟨lastPlain, -⟩ := List.forall_mem_cons.mp rest
  cases slot with
  | bar =>
    intro c mem
    simp only [slotText, track, cells, List.mem_append, List.mem_cons, List.mem_replicate,
      List.not_mem_nil, or_false] at mem
    rcases mem with (rfl | ⟨-, rfl⟩ | ⟨-, rfl⟩) | rfl
    · exact firstPlain
    · exact fillPlain
    · decide
    · exact lastPlain
  | percent =>
    rw [slotText]
    split
    · exact plain_append (plain_decimal _) (by decide)
    · exact List.forall_mem_nil _
  | count =>
    rw [slotText]
    split
    · refine plain_append (plain_decimal _) (List.forall_mem_cons.mpr ⟨?_, plain_decimal _⟩)
      decide
    · exact List.forall_mem_nil _

/-- **The line of a plainly laid out bar is plain**: its characters come from the template and the
slots, and nothing in either moves the cursor. -/
theorem plain_line (plain : bar.PlainLayout) : Plain bar.line.toList := by
  intro c mem
  rw [line, String.toList_ofList] at mem
  rcases Template.mem_fill mem with literal | ⟨slot, filled⟩
  · exact plain c (by simp [literal])
  · exact plain_slotText plain slot c filled

end Bar

/-! ## Plain lines on a screen -/

namespace Screen

variable {screen : Screen} {text : List Char}

/-- **A line from the start of a row** stands over as much of it as the line is long. -/
theorem putAll_from_start (plain : Plain text) (start : screen.column = 0) :
    screen.putAll text =
      { screen with row := text ++ screen.row.drop text.length, column := text.length } := by
  rw [putAll_of_plain plain screen (start ▸ Nat.zero_le _), start, List.take_zero,
    List.nil_append, Nat.zero_add]

/-- **A line that goes back** is to be drawn over like the row before it. -/
theorem putAll_return (plain : Plain text) (start : screen.column = 0) :
    screen.putAll (text ++ ['\r']) =
      { screen with row := text ++ screen.row.drop text.length, column := 0 } := by
  rw [putAll_append, putAll_from_start plain start]
  rfl

end Screen

end ProgressBar
