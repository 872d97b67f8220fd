import ProgressBar.Bar.Scale

/-!
# The line of a bar

A bar is shown as one line of text: its template with the slots filled. The **track** is the row of
cells between the caps, the percentage reads like `42%` and the counter like `5/10`; what is not
shown leaves its slot empty.

The track is laid out whether or not the template has a slot for it, in room that is set aside for
it before, a byte for each of its characters. A bar has no line when no text can be given that much
room.

**What is set aside.** Memory is. A line may also grow beyond the greatest text while it is put
together, by symbols of several bytes or by a template that shows the track often; all memory has
run out before that, and here such a line is laid out.
-/

namespace ProgressBar

/-- The greatest number of bytes a text can be given room for. -/
def textLimit : Nat := 1 <<< 63 - 1

/-- **Whether a track of so many cells fits into a text**, its two caps included. -/
def TrackFits (width : UInt64) : Prop := width.toNat + 2 ≤ textLimit

instance (width : UInt64) : Decidable (TrackFits width) :=
  inferInstanceAs (Decidable (_ ≤ _))

/-- **The cells of a track**, filled from the left. -/
def cells (fill : Char) (width : Nat) (filled : Int) : List Char :=
  let done := min filled.toNat width
  List.replicate done fill ++ List.replicate (width - done) ' '

/-- **A track**: the cells between the caps. -/
def track (fill : Char) (caps : Char × Char) (width : UInt64) (filled : Int64) : List Char :=
  caps.1 :: cells fill width.toNat filled.toInt ++ [caps.2]

/-- A track, unless it is too wide for a text. -/
def track? (fill : Char) (caps : Char × Char) (width : UInt64) (filled : Int64) :
    Option (List Char) :=
  if TrackFits width then some (track fill caps width filled) else none

/-- A number in decimal digits, with a minus sign when it is negative. -/
def decimal (n : Int64) : List Char := (toString n.toInt).toList

/-- A percentage, as in `42%`. -/
def percentText (percent : Int64) : List Char := decimal percent ++ ['%']

/-- A counter, as in `5/10`. -/
def countText (current total : Int64) : List Char := decimal current ++ '/' :: decimal total

namespace Bar

/-- **Whether a bar has a line**, as long as there is memory. -/
def Drawable (bar : Bar) : Prop := TrackFits bar.width

instance (bar : Bar) : Decidable bar.Drawable := inferInstanceAs (Decidable (TrackFits _))

/-- **What a bar puts into a slot.** -/
def slotText (bar : Bar) : Slot → List Char
  | .bar => track bar.fill bar.caps bar.width bar.filled
  | .percent => if bar.showsPercent then percentText bar.percent else []
  | .count => if bar.showsCount then countText bar.current bar.total else []

/-- **The line of a bar**, as if there were no limit to a text. -/
def line (bar : Bar) : String :=
  String.ofList (Template.fill bar.slotText bar.template.toList)

/-- **The line of a bar**, if it can be laid out. -/
def line? (bar : Bar) : Option String :=
  if bar.Drawable then some bar.line else none

/-- How a drawn line ends: a complete bar is left behind, an unfinished one is to be drawn over. -/
def terminator (bar : Bar) : String := if bar.isComplete then "\n" else "\r"

/-- **The line together with its end**, as it is drawn. -/
def frame (bar : Bar) : String := bar.line ++ bar.terminator

/-- A bar that has a line has the one that is laid out without a limit, so the limit decides only
whether there is a line and never what it says. -/
theorem line?_eq_some_iff {bar : Bar} {text : String} :
    bar.line? = some text ↔ bar.Drawable ∧ text = bar.line := by
  unfold line?; split <;> simp_all [eq_comm]

end Bar

/-- There are as many cells as the track is wide, whatever number of them is to be filled: a number
below zero fills none, and one above the width fills all. -/
theorem length_cells (fill : Char) (width : Nat) (filled : Int) :
    (cells fill width filled).length = width := by
  simp only [cells, List.length_append, List.length_replicate]; omega

/-- **Each cell is filled on its own account**: the first `filled` of them are, the others are
blank. -/
theorem getElem?_cells (fill : Char) (width : Nat) (filled : Int) (i : Nat) :
    (cells fill width filled)[i]? =
      if i < width then some (if (i : Int) < filled then fill else ' ') else none := by
  simp only [cells, List.getElem?_append, List.length_replicate, List.getElem?_replicate]
  by_cases inside : i < width <;> by_cases done : (i : Int) < filled <;>
    grind

end ProgressBar
