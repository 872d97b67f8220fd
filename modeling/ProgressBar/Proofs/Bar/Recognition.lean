import ProgressBar.Proofs.Bar.Cells
import ProgressBar.Proofs.Bar.Plain
import ProgressBar.Proofs.CommandLine.Values
import ProgressBar.Proofs.Template.Occurrences

/-!
# A bar recognised by its line

A line of the standard layout holds the track, the percentage and the counter with a blank between
each two. Symbol and caps of the track may be any characters, blanks and digits too, but neither a
percentage nor a counter has a blank in it. So a line falls into its three parts in one way only,
when it is taken apart from its end (`Bar.line_eq_iff_slotText_eq`).

**The law** (`Bar.line?_eq_iff_of_counted`): a line of the standard layout with a counter tells the
progress, the total, the width, the caps, and whether the percentage is shown; and it tells the
symbol of a completed cell as soon as there is one. It tells nothing else, because bars that agree
in all this have the same line.

**What it does not establish.** Without a counter the progress is told only as far as cells and
percentage go, and in another layout the three parts may run into each other.
-/

namespace ProgressBar

/-! ## Taking a text apart -/

/-- **A text is cut in one way only** at the last place where some character stands. -/
theorem append_cons_inj_of_notMem_rest {α : Type} {front front' rest rest' : List α} {c : α}
    (last : c ∉ rest) (last' : c ∉ rest') :
    front ++ c :: rest = front' ++ c :: rest' ↔ front = front' ∧ rest = rest' := by
  constructor
  · intro same
    -- Were one front longer than the other, the character that ends the shorter one would stand in
    -- the rest of that text again.
    rcases List.append_eq_append_iff.mp same with ⟨more, frontEq, restEq⟩ | ⟨more, frontEq, restEq⟩
    · cases more with
      | nil => simp_all
      | cons d more =>
        obtain ⟨-, rfl⟩ := List.cons.inj restEq
        exact absurd (List.mem_append_right more List.mem_cons_self) last
    · cases more with
      | nil => simp_all
      | cons d more =>
        obtain ⟨-, rfl⟩ := List.cons.inj restEq
        exact absurd (List.mem_append_right more List.mem_cons_self) last'
  · rintro ⟨rfl, rfl⟩
    rfl

/-! ## Numbers -/

/-- **A decimal number stands for one number only**: reading it gives that number back. -/
theorem decimal_inj {m n : Int64} : decimal m = decimal n ↔ m = n := by
  constructor
  · intro same
    have read := Text.readSigned_toString m
    rw [String.toList_inj.mp same, Text.readSigned_toString n] at read
    exact (Except.ok.inj read).symm
  · rintro rfl
    rfl

/-- **A counter tells its two numbers**: neither has a slash in it. -/
theorem countText_inj {current total current' total' : Int64} :
    countText current total = countText current' total' ↔ current = current' ∧ total = total' := by
  have noSlash (n : Int64) : '/' ∉ decimal n := not_mem_decimal (by decide) (by decide) n
  rw [countText, countText, append_cons_inj_of_notMem_rest (noSlash _) (noSlash _), decimal_inj,
    decimal_inj]

/-! ## Tracks -/

/-- **A track tells its caps and its cells**, since these are its ends and what is between them. -/
theorem track_inj {fill fill' : Char} {caps caps' : Char × Char} {width width' : UInt64}
    {filled filled' : Int64} :
    track fill caps width filled = track fill' caps' width' filled' ↔
      caps = caps' ∧
        cells fill width.toNat filled.toInt = cells fill' width'.toNat filled'.toInt := by
  constructor
  · intro same
    obtain ⟨inside, lasts⟩ := List.append_inj' same rfl
    obtain ⟨firsts, cellsEq⟩ := List.cons.inj inside
    exact ⟨Prod.ext firsts (List.cons.inj lasts).1, cellsEq⟩
  · rintro ⟨rfl, cellsEq⟩
    rw [track, track, cellsEq]

/-- **Cells tell their symbol** as soon as one of them is filled. -/
theorem cells_inj_fill {fill fill' : Char} {width : Nat} {filled : Int} :
    cells fill width filled = cells fill' width filled ↔
      (min filled.toNat width ≠ 0 → fill = fill') := by
  rw [cells, cells, List.append_left_inj, List.replicate_inj, and_iff_right rfl]
  exact Decidable.or_iff_not_imp_left

namespace Bar

variable {a b : Bar}

/-- **The line of the standard layout**, in its three parts with a blank between each two, whether
or not a part is shown. -/
theorem toList_line_of_standard (standard : a.template = Template.standard) :
    a.line.toList =
      (a.slotText .bar ++ ' ' :: a.slotText .percent) ++ ' ' :: a.slotText .count := by
  have read : Template.pieces Template.standard.toList =
      [.slot .bar, .literal ' ', .slot .percent, .literal ' ', .slot .count] := by decide
  rw [line, String.toList_ofList, standard, Template.fill, read]
  simp [Template.Piece.text]

/-- There is no blank in a percentage: once the counter is taken off a line, the last blank stands
in front of the percentage. -/
theorem not_mem_slotText_percent (bar : Bar) : ' ' ∉ bar.slotText .percent := by
  rw [slotText]
  split
  · rw [percentText, List.mem_append]
    rintro (digit | sign)
    · exact not_mem_decimal (by decide) (by decide) _ digit
    · exact absurd sign (by decide)
  · exact List.not_mem_nil

/-- There is no blank in a counter, so the last blank of a line stands in front of it. -/
theorem not_mem_slotText_count (bar : Bar) : ' ' ∉ bar.slotText .count := by
  rw [slotText]
  split
  · rw [countText, List.mem_append, List.mem_cons]
    rintro (digit | slash | digit)
    · exact not_mem_decimal (by decide) (by decide) _ digit
    · exact absurd slash (by decide)
    · exact not_mem_decimal (by decide) (by decide) _ digit
  · exact List.not_mem_nil

/-- **Lines of the standard layout are equal part by part.** They are cut from the back, since caps
and symbol may be blanks themselves and neither counter nor percentage has one. -/
theorem line_eq_iff_slotText_eq (aStandard : a.template = Template.standard)
    (bStandard : b.template = Template.standard) :
    a.line = b.line ↔ ∀ slot, a.slotText slot = b.slotText slot := by
  rw [Slot.forall_iff, ← and_assoc, ← String.toList_inj, toList_line_of_standard aStandard,
    toList_line_of_standard bStandard,
    append_cons_inj_of_notMem_rest a.not_mem_slotText_count b.not_mem_slotText_count,
    append_cons_inj_of_notMem_rest a.not_mem_slotText_percent b.not_mem_slotText_percent]

/-! ## What each part tells -/

/-- A counter that is shown tells progress and total. -/
theorem slotText_count_eq_iff (aCounts : a.showsCount = true) (bCounts : b.showsCount = true) :
    a.slotText .count = b.slotText .count ↔ a.current = b.current ∧ a.total = b.total := by
  rw [slotText, slotText, if_pos aCounts, if_pos bCounts, countText_inj]

/-- Of two bars that have come equally far the percentages differ only in being shown. -/
theorem slotText_percent_eq_iff (percent : a.percent = b.percent) :
    a.slotText .percent = b.slotText .percent ↔ a.showsPercent = b.showsPercent := by
  have shown (n : Int64) : percentText n ≠ [] := List.append_ne_nil_of_right_ne_nil _ (by simp)
  rw [slotText, slotText, percent]
  cases a.showsPercent <;> cases b.showsPercent <;> simp [shown, eq_comm]

/-- Of two bars that have come equally far towards equal totals the tracks differ in width, caps,
and symbol. -/
theorem slotText_bar_eq_iff (current : a.current = b.current) (total : a.total = b.total) :
    a.slotText .bar = b.slotText .bar ↔
      a.width = b.width ∧ a.caps = b.caps ∧ (a.reached ≠ 0 → a.fill = b.fill) := by
  have filledEq (width : a.width = b.width) : a.filled = b.filled := by
    rw [filled, filled, current, total, width]
  constructor
  · intro same
    -- The width comes first: only then the cells are filled equally far, and compare by symbol.
    have lengths := congrArg List.length same
    rw [slotText, slotText, length_track, length_track] at lengths
    have width : a.width = b.width := UInt64.toNat_inj.mp (Nat.add_right_cancel lengths)
    obtain ⟨caps, cellsEq⟩ := track_inj.mp same
    rw [← width, ← filledEq width, cells_inj_fill] at cellsEq
    exact ⟨width, caps, cellsEq⟩
  · rintro ⟨width, caps, fill⟩
    refine track_inj.mpr ⟨caps, ?_⟩
    rw [← width, ← filledEq width]
    exact cells_inj_fill.mpr fill

/-- **A line of the standard layout with a counter tells the bar that drew it.** Take any two bars
of the standard layout that can be rendered and show their counters. Their lines are equal exactly
when they agree in progress, total, width, caps and whether the percentage is shown, and in the
symbol of a completed cell, unless there is no such cell. -/
theorem line?_eq_iff_of_counted (a b : Bar) (aStandard : a.template = Template.standard)
    (bStandard : b.template = Template.standard) (aDrawable : a.Drawable) (bDrawable : b.Drawable)
    (aCounts : a.showsCount = true) (bCounts : b.showsCount = true) :
    a.line? = b.line? ↔
      a.current = b.current ∧ a.total = b.total ∧ a.width = b.width ∧ a.caps = b.caps ∧
        a.showsPercent = b.showsPercent ∧
        (min a.width.toNat a.filled.toInt.toNat ≠ 0 → a.fill = b.fill) := by
  have reached : a.reached = min a.width.toNat a.filled.toInt.toNat := Nat.min_comm ..
  rw [line?, line?, if_pos aDrawable, if_pos bDrawable, Option.some_inj,
    line_eq_iff_slotText_eq aStandard bStandard, ← reached]
  constructor
  · intro same
    obtain ⟨current, total⟩ := (slotText_count_eq_iff aCounts bCounts).mp (same .count)
    obtain ⟨width, caps, fill⟩ := (slotText_bar_eq_iff current total).mp (same .bar)
    have percent : a.percent = b.percent := by rw [Bar.percent, Bar.percent, current, total]
    exact ⟨current, total, width, caps, (slotText_percent_eq_iff percent).mp (same .percent), fill⟩
  · rintro ⟨current, total, width, caps, shows, fill⟩ slot
    have percent : a.percent = b.percent := by rw [Bar.percent, Bar.percent, current, total]
    cases slot with
    | bar => exact (slotText_bar_eq_iff current total).mpr ⟨width, caps, fill⟩
    | percent => exact (slotText_percent_eq_iff percent).mpr shows
    | count => exact (slotText_count_eq_iff aCounts bCounts).mpr ⟨current, total⟩

/-- Caps that look like a blank and a digit, symbols that look like the ends of the other parts.
Below zero no cell shows the symbol, and the lines are equal; half way they are not. -/
theorem line?_eq_iff_of_counted_odd_symbols :
    let bar (fill : Char) (current : Int64) : Bar :=
      ⟨fill, (' ', '5'), 2, 10, current, true, true, Template.standard, by decide⟩
    (∀ fill current, (bar fill current).Drawable) ∧
      (bar '%' (-3)).line? = (bar '/' (-3)).line? ∧ (bar '%' 5).line? ≠ (bar '/' 5).line? := by
  intro bar
  have fits : TrackFits 2 := by decide
  have drawable (fill : Char) (current : Int64) : (bar fill current).Drawable := fits
  have told (current : Int64) := line?_eq_iff_of_counted (bar '%' current) (bar '/' current) rfl rfl
    (drawable _ _) (drawable _ _) rfl rfl
  refine ⟨drawable, (told (-3)).mpr ?_, fun same => ?_⟩
  · exact ⟨rfl, rfl, rfl, rfl, rfl, fun filled => absurd (by decide) filled⟩
  · obtain ⟨-, -, -, -, -, symbol⟩ := (told 5).mp same
    exact absurd (symbol (by decide)) (by decide)

end Bar

end ProgressBar
