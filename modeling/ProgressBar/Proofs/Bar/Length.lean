import ProgressBar.Proofs.Bar.Share
import ProgressBar.Proofs.Template.Length

/-!
# How long a line is

A line is as long as its template, apart from what the template gains at its slots
(`ProgressBar.Proofs.Template.Length`). The track of a bar is as long at every progress; only the
percentage and the counter change their length, and both are decimal numbers. What is not shown has
no length at all.

**The law** (`Bar.length_line_by_slots`): the length of a line is told by the template, the number
of places at which each slot stands, and the lengths of the three texts. From zero on, a line is
never longer than the line of the same bar at a greater progress (`Bar.length_line_setTo_mono`). So
a line that is drawn over a line of less progress leaves nothing of it.

**What it does not establish.** Below zero a line may well be longer than that of more progress: a
minus sign is a character of its own.
-/

namespace ProgressBar

/-! ## Decimal numbers -/

theorem length_toDigits_mono {m n : Nat} (le : m ≤ n) :
    (Nat.toDigits 10 m).length ≤ (Nat.toDigits 10 n).length := by
  have below : n < 10 ^ (Nat.toDigits 10 n).length :=
    (Nat.length_toDigits_le_iff (by decide) Nat.length_toDigits_pos).mp (Nat.le_refl _)
  rw [Nat.length_toDigits_le_iff (by decide) Nat.length_toDigits_pos]
  exact Nat.lt_of_le_of_lt le below

/-- A number that is not negative is spelled by its digits, without a sign. -/
theorem decimal_of_nonneg {n : Int64} (nonneg : 0 ≤ n.toInt) :
    decimal n = Nat.toDigits 10 n.toInt.toNat := by
  obtain ⟨m, hm⟩ := Int.eq_ofNat_of_zero_le nonneg
  have written : toString (m : Int) = m.repr := rfl
  rw [decimal, hm, written, Nat.toList_repr, Int.toNat_natCast]

/-- **A greater number is written no shorter**, from zero on. Below zero it is the other way round,
and the sign comes in. -/
theorem length_decimal_mono {m n : Int64} (nonneg : 0 ≤ m.toInt) (le : m.toInt ≤ n.toInt) :
    (decimal m).length ≤ (decimal n).length := by
  rw [decimal_of_nonneg nonneg, decimal_of_nonneg (Int.le_trans nonneg le)]
  exact length_toDigits_mono (Int.toNat_le_toNat le)

/-! ## Lines -/

/-- A track is two characters longer than it has cells, one for each of its caps. -/
theorem length_track (fill : Char) (caps : Char × Char) (width : UInt64) (filled : Int64) :
    (track fill caps width filled).length = width.toNat + 2 := by
  simp only [track, List.length_append, List.length_cons, length_cells, List.length_nil]

namespace Bar

variable {bar : Bar} {value further : Int64}

/-- **More progress makes no slot's text shorter**, from zero on. The track keeps its length, and
the percentage and the counter are longer for longer numbers only. -/
theorem length_slotText_setTo_mono (nonneg : 0 ≤ value.toInt) (le : value.toInt ≤ further.toInt)
    (slot : Slot) :
    ((bar.setTo value).slotText slot).length ≤ ((bar.setTo further).slotText slot).length := by
  cases slot with
  | bar =>
    rw [slotText, slotText, length_track, length_track]
    exact Nat.le_refl _
  | percent =>
    have digits := length_decimal_mono (toInt_percent_setTo_nonneg bar nonneg)
      (toInt_percent_setTo_mono bar le)
    cases shown : bar.showsPercent with
    | false => simp only [slotText, setTo, shown, Bool.false_eq_true, if_false, Nat.le_refl]
    | true =>
      simp only [slotText, setTo, shown, if_true, percentText, List.length_append] at digits ⊢
      omega
  | count =>
    have digits := length_decimal_mono nonneg le
    cases shown : bar.showsCount with
    | false => simp only [slotText, setTo, shown, Bool.false_eq_true, if_false, Nat.le_refl]
    | true =>
      simp only [slotText, setTo, shown, if_true, countText, List.length_append]
      omega

/-- **More progress makes no line shorter**, from zero on, in whatever template; so a line that goes
forward always covers the one before it. -/
theorem length_line_setTo_mono (nonneg : 0 ≤ value.toInt) (le : value.toInt ≤ further.toInt) :
    (bar.setTo value).line.toList.length ≤ (bar.setTo further).line.toList.length := by
  rw [line, line, String.toList_ofList, String.toList_ofList]
  exact Template.length_fill_mono (length_slotText_setTo_mono nonneg le) _

/-! ## The length told by the slots -/

/-- What the percentage adds to a line, which is nothing while it is hidden. -/
theorem length_slotText_percent (bar : Bar) :
    (bar.slotText .percent).length =
      if bar.showsPercent then (percentText bar.percent).length else 0 :=
  apply_ite List.length ..

/-- What the counter adds to a line, which is nothing while it is hidden. -/
theorem length_slotText_count (bar : Bar) :
    (bar.slotText .count).length =
      if bar.showsCount then (countText bar.current bar.total).length else 0 :=
  apply_ite List.length ..

/-- **The length of a line** is that of the template and what it gains at its slots. -/
theorem length_line (bar : Bar) :
    (bar.line.length : Int) =
      bar.template.length + Template.gain bar.slotText bar.template.toList .bar +
        Template.gain bar.slotText bar.template.toList .percent +
        Template.gain bar.slotText bar.template.toList .count := by
  rw [line, String.length_ofList, Template.length_fill, String.length_toList]

/-- **The length of a line is told by the slots of its template.** Take any bar whose track fits
into a text. It has a line. With each character counted once, the line is as long as the template
and, for each place where a slot stands, the length of the slot's text less that of its spelling,
over the integers: the text of a track is as long as its cells and two caps, and what is not shown
has length 0. From zero on, the bar also has a line at every greater progress, and this line is no
shorter. -/
theorem length_line_by_slots (bar : Bar) (drawable : bar.Drawable) :
    let times (slot : Slot) : Int := Template.occurrences bar.template.toList slot
    let percentLength : Nat := if bar.showsPercent then (percentText bar.percent).length else 0
    let countLength : Nat :=
      if bar.showsCount then (countText bar.current bar.total).length else 0
    ∃ line, bar.line? = some line ∧
      (line.length : Int) =
        bar.template.length + times .bar * (bar.width.toNat + 2 - 5) +
          times .percent * (percentLength - 9) + times .count * (countLength - 7) ∧
      ∀ further : Int64, 0 ≤ bar.current → bar.current ≤ further →
        ∃ longer, (bar.setTo further).line? = some longer ∧ line.length ≤ longer.length := by
  intro times percentLength countLength
  have atBar : Template.gain bar.slotText bar.template.toList .bar =
      times .bar * (bar.width.toNat + 2 - 5) := by
    rw [Template.gain, slotText, length_track]
    rfl
  have atPercent : Template.gain bar.slotText bar.template.toList .percent =
      times .percent * (percentLength - 9) := by
    rw [Template.gain, length_slotText_percent]
    rfl
  have atCount : Template.gain bar.slotText bar.template.toList .count =
      times .count * (countLength - 7) := by
    rw [Template.gain, length_slotText_count]
    rfl
  refine ⟨bar.line, if_pos drawable, ?_, fun further nonneg le => ?_⟩
  · rw [length_line, atBar, atPercent, atCount]
  · refine ⟨(bar.setTo further).line, if_pos drawable, ?_⟩
    have mono : (bar.setTo bar.current).line.toList.length ≤
        (bar.setTo further).line.toList.length :=
      length_line_setTo_mono (Int64.le_iff_toInt_le.mp nonneg) (Int64.le_iff_toInt_le.mp le)
    rwa [String.length_toList, String.length_toList] at mono

/-- Slots among odd braces: one between braces of the template's own, one that stands twice, and a
hidden one whose neighbours look like a slot once it is gone. -/
theorem length_line_by_slots_odd_braces :
    let bar : Bar := ⟨'#', ('[', ']'), 3, 120, 9, true, false,
      "\x7b\x7bbar\x7d\x7d \x7bpercent\x7d\x7bcou\x7bcount\x7dnt\x7d\x7bpercent\x7d", by decide⟩
    bar.Drawable ∧ 0 ≤ bar.current ∧ bar.current ≤ 100 ∧
      ∃ line longer, bar.line? = some line ∧ (bar.setTo 100).line? = some longer ∧
        (line.length : Int) = 40 + 1 * (3 + 2 - 5) + 2 * (2 - 9) + 1 * (0 - 7) ∧
        line.length ≤ longer.length := by
  intro bar
  have drawable : bar.Drawable := by decide
  have nonneg : 0 ≤ bar.current := by decide
  have le : bar.current ≤ 100 := by decide
  obtain ⟨line, shown, length, grows⟩ := length_line_by_slots bar drawable
  obtain ⟨longer, shownLonger, noShorter⟩ := grows 100 nonneg le
  exact ⟨drawable, nonneg, le, line, longer, shown, shownLonger, length.trans (by decide),
    noShorter⟩

/-- Below zero the minus sign makes the line of less progress the longer one. -/
example :
    let bar : Bar := ⟨'#', ('[', ']'), 3, 9, -1, false, true, "\x7bcount\x7d", by decide⟩
    bar.line = "-1/9" ∧ (bar.setTo 0).line = "0/9" := by
  decide +kernel

end Bar

end ProgressBar
