import ProgressBar.Bar.Line
import ProgressBar.Proofs.Bar.Scaling

/-!
# Which configurations can be rendered

A configuration passes its check when its total is positive. The check does not look at the width,
and as long as there is memory it is the width alone that decides whether a bar can be rendered: no
text can be given room for a track of too many characters, and that is found out before any of the
room is taken.

**The law** (`rendered_iff_track_fits`): of the configurations that pass, those with room for their
track are rendered after any work on the bar, and the others never are, be the template as short as
it may.

**What passes all the same** (`checked_without_line`): a configuration that no line can be made of.

**What it does not establish.** That there is memory for a line. Of the tracks that fit, most are
far too wide for any machine.
-/

namespace ProgressBar

/-- **A line is laid out** just when the track of the configuration fits, whatever the work on the
bar. -/
theorem line?_run_of_trackFits {config : Config} {built : Bar}
    (accepted : Bar.ofConfig config = .ok built) (steps : List Draft.Step) :
    let bar := ((Draft.ofBar built).run steps).bar
    bar.line? = if TrackFits config.width then some bar.line else none := by
  intro bar
  have measures : bar.HasMeasures config := Draft.hasMeasures_run_ofBar accepted steps
  have drawable : bar.Drawable ↔ TrackFits config.width := by
    rw [Bar.Drawable, measures.width]
  simp only [Bar.line?, drawable]

/-- **What the check of a configuration promises, and what it does not.** A bar can be built from
every configuration that passes. If its width leaves room for the two caps in a text, the bar has
its line after any steps of work on it; if not, it has none after any. -/
theorem rendered_iff_track_fits (config : Config) (passes : config.check = .ok ()) :
    ∃ built, Bar.ofConfig config = .ok built ∧
      ∀ steps : List Draft.Step,
        let bar := ((Draft.ofBar built).run steps).bar
        (config.width.toNat + 2 ≤ textLimit → bar.line? = some bar.line) ∧
          (textLimit < config.width.toNat + 2 → bar.line? = none) := by
  have valid : config.Valid := Config.check_eq_ok_iff.mp passes
  obtain ⟨built, accepted, -⟩ := Bar.ofConfig_of_valid valid
  refine ⟨built, accepted, fun steps => ?_⟩
  have laidOut := line?_run_of_trackFits accepted steps
  dsimp only at laidOut ⊢
  rw [laidOut]
  exact ⟨fun fits => if_pos fits, fun wide => if_neg (Nat.not_le.mpr wide)⟩

/-- Four cells, and a progress that goes behind the total: all cells are filled. -/
theorem rendered_iff_track_fits_behind_total :
    let config : Config := ⟨'#', 4, 7⟩
    let steps : List Draft.Step := [.change (.setCurrent 8), .save, .change (.advance 2)]
    config.check = .ok () ∧
      ∃ built, Bar.ofConfig config = .ok built ∧
        ((Draft.ofBar built).run steps).bar.line? = some "[####]  " := by
  intro config steps
  have passes : config.check = .ok () := Config.check_eq_ok_iff.mpr (by decide)
  obtain ⟨built, accepted, rendered⟩ := rendered_iff_track_fits config passes
  have line : ((Draft.ofBar built).run steps).bar.line = "[####]  " := by
    cases accepted
    decide +kernel
  exact ⟨passes, built, accepted, line ▸ (rendered steps).1 (by decide)⟩

/-- **A configuration that passes its check and has no line**: one cell for every number that a
progress can be from zero on. The template is empty, so the line would be, too. -/
theorem checked_without_line :
    let config : Config := ⟨'#', UInt64.ofNat (textLimit + 1), 1⟩
    let steps : List Draft.Step := [.change (.setTemplate "")]
    config.check = .ok () ∧
      ∃ built, Bar.ofConfig config = .ok built ∧
        ((Draft.ofBar built).run steps).bar.line? = none := by
  intro config steps
  have valid : config.Valid := by decide
  obtain ⟨built, accepted, -⟩ := Bar.ofConfig_of_valid valid
  have laidOut := line?_run_of_trackFits accepted steps
  exact ⟨Config.check_eq_ok_iff.mpr valid, built, accepted,
    laidOut.trans (if_neg (by decide))⟩

end ProgressBar
