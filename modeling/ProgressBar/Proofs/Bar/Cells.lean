import ProgressBar.Proofs.Bar.Length
import ProgressBar.Proofs.Bar.Scaling
import ProgressBar.Proofs.Printing

/-!
# Cells, percentage and the end of a line

A bar says in three ways how far it has come: by the cells of its track, by its percentage, and by
the end of its line, which is left behind once the work is complete. The number of filled cells and
the percentage are each computed in words, cut off and clamped, but a **reached** cell is one whose
end is not beyond the progress, over the integers.

**The law** (`track_tells_completion`): on a track that fits, exactly the reached cells are filled.
So they are the first ones, and a track of at least one cell is full exactly when the percentage has
reached 100, when the progress has reached the total, and when the line is left behind.

**What it does not establish.** A symbol that is blank fills cells like any other, and then nobody
can tell them from those that are not reached.
-/

namespace ProgressBar

namespace Bar

/-- **A cell is reached** when its end is not beyond the progress, both measured on a scale of as
many parts as the width times the total. -/
def Reaches (bar : Bar) (cell : Nat) : Prop :=
  ((cell : Int) + 1) * bar.total.toInt ≤ bar.current.toInt * bar.width.toNat

instance (bar : Bar) (cell : Nat) : Decidable (bar.Reaches cell) :=
  inferInstanceAs (Decidable (_ ≤ _))

variable {bar : Bar} {cell : Nat}

/-- **The filled cells are the reached ones**, however their number was cut off and clamped. -/
theorem lt_filled_iff_reaches (drawable : bar.Drawable) (inside : cell < bar.width.toNat) :
    (cell : Int) < bar.filled.toInt ↔ bar.Reaches cell := by
  have fits : bar.width.toNat + 2 ≤ textLimit := drawable
  have limit : textLimit = 2 ^ 63 - 1 := rfl
  have bound : wordEnd 64 = 2 ^ 63 := rfl
  rw [toInt_filled, ← Int.add_one_le_iff, le_clampTo_iff (by omega) (by omega),
    le_tdiv_iff (by omega) bar.toInt_total_pos]
  rfl

/-- **The number of reached cells.** -/
def reached (bar : Bar) : Nat := min bar.filled.toInt.toNat bar.width.toNat

/-- **The reached cells are the first ones.** So a track is filled from the left without a gap, and
a single number tells it. -/
theorem reaches_iff_lt_reached (drawable : bar.Drawable) (inside : cell < bar.width.toNat) :
    bar.Reaches cell ↔ cell < bar.reached := by
  rw [← lt_filled_iff_reaches drawable inside, reached]
  omega

/-- **The last cell is reached with the total**, and then every cell is. Without any cell there
would be no last one, and every cell would be reached from the start. -/
theorem reaches_all_iff (widthPos : 1 ≤ bar.width.toNat) :
    (∀ cell < bar.width.toNat, bar.Reaches cell) ↔ bar.total ≤ bar.current := by
  have cells : (0 : Int) < bar.width.toNat := by omega
  rw [Int64.le_iff_toInt_le]
  constructor
  · intro all
    have last := all (bar.width.toNat - 1) (by omega)
    rw [Reaches, Int.mul_comm bar.current.toInt,
      show ((bar.width.toNat - 1 : Nat) : Int) + 1 = bar.width.toNat by omega] at last
    exact Int.le_of_mul_le_mul_left last cells
  · intro le cell inside
    calc ((cell : Int) + 1) * bar.total.toInt
        ≤ bar.width.toNat * bar.total.toInt :=
          Int.mul_le_mul_of_nonneg_right (by omega) (Int.le_of_lt bar.toInt_total_pos)
      _ ≤ bar.width.toNat * bar.current.toInt :=
          Int.mul_le_mul_of_nonneg_left le (Int.le_of_lt cells)
      _ = bar.current.toInt * bar.width.toNat := Int.mul_comm _ _

/-- **A line is left behind** on a working sink exactly when the progress has reached the total. -/
theorem draw_prints_feed_iff (drawable : bar.Drawable) {console : Console}
    (works : console.sink.Works) :
    (∃ after, bar.draw console = (.ok (), after) ∧ console.Prints (bar.line ++ "\n") after) ↔
      bar.total ≤ bar.current := by
  obtain ⟨after, drawn, prints⟩ := bar.draw_of_works drawable works
  rw [drawnLine] at prints
  constructor
  · rintro ⟨other, drawnToo, printsFeed⟩
    obtain rfl : after = other := (Prod.mk.inj (drawn.symm.trans drawnToo)).2
    have same := (String.append_right_inj _).mp (prints.text_eq printsFeed)
    by_cases complete : bar.total ≤ bar.current
    · exact complete
    · rw [if_neg complete] at same
      exact absurd same (by decide)
  · intro complete
    rw [if_pos complete] at prints
    exact ⟨after, drawn, prints⟩

/-- **The cells of a track**: the reached ones carry the symbol, the others are blank. -/
theorem getElem?_cells_reaches (drawable : bar.Drawable) (inside : cell < bar.width.toNat) :
    (cells bar.fill bar.width.toNat bar.filled.toInt)[cell]? =
      some (if bar.Reaches cell then bar.fill else ' ') := by
  rw [getElem?_cells, if_pos inside]
  simp only [lt_filled_iff_reaches drawable inside]

/-- Unless the symbol is blank, the cells that carry it are the reached ones. -/
theorem getElem?_cells_eq_fill_iff (drawable : bar.Drawable) (inside : cell < bar.width.toNat)
    (visible : bar.fill ≠ ' ') :
    (cells bar.fill bar.width.toNat bar.filled.toInt)[cell]? = some bar.fill ↔
      bar.Reaches cell := by
  rw [getElem?_cells_reaches drawable inside]
  by_cases reaches : bar.Reaches cell
  · rw [if_pos reaches]
    exact iff_of_true rfl reaches
  · rw [if_neg reaches]
    exact iff_of_false (fun same => visible (Option.some.inj same).symm) reaches

/-- **What cells, percentage and the end of a line say of the progress.** Take any bar whose track
fits, and a console that works. Its track can be laid out and is its cells between the caps, as many
as the width. A cell carries the symbol if it is reached and is blank if not, which tells the two
apart unless the symbol is blank; and the reached cells are the first ones. If there is a cell at
all, the following are the same: every cell is reached; the percentage is at least 100; the bar is
complete; the progress has reached the total; the line is drawn with a line feed behind it. -/
theorem track_tells_completion (bar : Bar) (drawable : bar.Drawable) (console : Console)
    (works : console.sink.Works) :
    let row := cells bar.fill bar.width.toNat bar.filled.toInt
    track? bar.fill bar.caps bar.width bar.filled = some (bar.slotText .bar) ∧
      bar.slotText .bar = bar.caps.1 :: row ++ [bar.caps.2] ∧
      (bar.slotText .bar).length = bar.width.toNat + 2 ∧ row.length = bar.width.toNat ∧
      (∀ cell < bar.width.toNat,
        row[cell]? = some (if bar.Reaches cell then bar.fill else ' ')) ∧
      (bar.fill ≠ ' ' → ∀ cell < bar.width.toNat, row[cell]? = some bar.fill ↔
        bar.Reaches cell) ∧
      (∃ reached ≤ bar.width.toNat, ∀ cell < bar.width.toNat,
        bar.Reaches cell ↔ cell < reached) ∧
      (1 ≤ bar.width.toNat →
        ((∀ cell < bar.width.toNat, bar.Reaches cell) ↔ 100 ≤ bar.percent.toInt) ∧
          (100 ≤ bar.percent.toInt ↔ bar.isComplete = true) ∧
          (bar.isComplete = true ↔ bar.total ≤ bar.current) ∧
          (bar.total ≤ bar.current ↔ ∃ after, bar.draw console = (.ok (), after) ∧
            console.Prints (bar.line ++ "\n") after)) := by
  intro row
  have percent : 100 ≤ bar.percent.toInt ↔ bar.isComplete = true := by
    rw [isComplete, decide_eq_true_iff, Int64.le_iff_toInt_le]
    rfl
  refine ⟨if_pos drawable, rfl, length_track .., length_cells .., ?_, ?_, ?_, fun widthPos => ?_⟩
  · exact fun cell inside => getElem?_cells_reaches drawable inside
  · exact fun visible cell inside => getElem?_cells_eq_fill_iff drawable inside visible
  · exact ⟨bar.reached, Nat.min_le_right .., fun cell inside =>
      reaches_iff_lt_reached drawable inside⟩
  · refine ⟨?_, percent, bar.isComplete_iff, (draw_prints_feed_iff drawable works).symm⟩
    rw [reaches_all_iff widthPos, percent, isComplete_iff]

/-- One step short of the total: the last of seven cells is blank, the percentage is 99, and the
line is drawn to be drawn over. -/
theorem track_tells_completion_last_step :
    let bar : Bar := ⟨'#', ('[', ']'), 7, 200, 199, true, false, Template.standard, by decide⟩
    let row := cells bar.fill bar.width.toNat bar.filled.toInt
    bar.Drawable ∧ Sink.unlimited.Works ∧ row.length = 7 ∧ row[5]? = some '#' ∧
      row[6]? = some ' ' ∧ ¬ 100 ≤ bar.percent.toInt ∧
      ¬ ∃ after, bar.draw {} = (.ok (), after) ∧ Console.Prints {} (bar.line ++ "\n") after := by
  intro bar row
  have drawable : bar.Drawable := by decide
  obtain ⟨-, -, -, length, shown, -, -, same⟩ :=
    track_tells_completion bar drawable {} Sink.works_unlimited
  obtain ⟨-, percent, complete, feed⟩ := same (by decide)
  have below : ¬ bar.total ≤ bar.current := by decide
  have sixth : bar.Reaches 5 := by decide
  have seventh : ¬ bar.Reaches 6 := by decide
  have shownSixth := shown 5 (by decide)
  have shownSeventh := shown 6 (by decide)
  rw [if_pos sixth] at shownSixth
  rw [if_neg seventh] at shownSeventh
  exact ⟨drawable, Sink.works_unlimited, length, shownSixth, shownSeventh,
    mt (percent.trans complete).mp below, mt feed.mpr below⟩

end Bar

end ProgressBar
