import ProgressBar.Proofs.Iteration.Reaction
import ProgressBar.Proofs.Iteration.Supply

/-!
# Metering is transparent

Steps taken one after the other, with a nest and with the bare source at its centre.

**The law** (`Nest.takeSteps_transparent`): steps that all come to an answer give the same answers
with the nest as with the bare source, and each bar of the nest has then moved by the number of
items that were taken out. When it is that they come to an answer is told exactly: they do on the
bare source, and either every line of the nest can be laid out or nothing is pulled.

Every first part of a run of steps is such a run, so the law speaks of the nest after each step. It
holds on any console, since nothing in it depends on what is written.

**What it does not establish.** Looking at the outermost bar is no step of a bare source and is left
aside.
-/

namespace ProgressBar.Iteration.Nest

/-- A step that pulls an item fails where a line cannot be laid out, even if it would come to an
answer on the bare source. -/
theorem step_of_not_drawable {nest : Nest} (console : Console) {step : Step}
    (wide : ¬ nest.Drawable) (pulls : .item ∈ step.signals nest.source) :
    (nest.step step console).1 = .error .trackTooWide := by
  cases step with
  | traverse traversal =>
    have takes : (traversal.walk nest.source).taken nest.source ≠ 0 := by
      simpa [Step.signals] using pulls
    have held := run_of_not_drawable console wide takes
    rw [Nest.step]
    generalize nest.run (traversal.walk nest.source) console = state at held
    obtain ⟨result, state⟩ := state
    cases held
    rfl
  | sizeHint => exact absurd pulls List.not_mem_nil
  | length => exact absurd pulls List.not_mem_nil
  | close => simp [Step.signals] at pulls
  | bar => exact absurd pulls List.not_mem_nil

/-- **A run that comes to its answers with a nest** comes to them on the bare source, and pulls
nothing where a line cannot be laid out. -/
theorem takeSteps_bare_of_ok (nest : Nest) (console : Console) {steps : List Step}
    (asked : .bar ∉ steps) {answers : List Answer}
    (given : (nest.takeSteps console steps).1 = .ok answers) :
    ((bare nest.source).takeSteps {} steps).1 = .ok answers ∧
      (nest.Drawable ∨ .item ∉ nest.source.signals steps) := by
  induction steps generalizing nest console answers with
  | nil => exact ⟨given, .inr List.not_mem_nil⟩
  | cons step rest ih =>
    rw [List.mem_cons, not_or] at asked
    have calm : nest.Drawable ∨ .item ∉ step.signals nest.source := by
      by_cases drawable : nest.Drawable
      · exact .inl drawable
      · refine .inr fun pulls => ?_
        have held := step_of_not_drawable console drawable pulls
        rw [takeSteps] at given
        generalize nest.step step console = state at given held
        obtain ⟨result, state⟩ := state
        cases held
        cases given
    have stepped := step_eq nest console step (Ne.symm asked.1) calm
    cases reached : (nest.withSource (nest.source.after step)).receiveAll console
      (step.signals nest.source) with
    | mk next after =>
    rw [takeSteps, stepped, reached] at given
    cases givenStep : ((bare nest.source).step step {}).1 with
    | error reason => rw [givenStep] at given; cases given
    | ok answer =>
      rw [givenStep] at given
      dsimp only at given
      cases givenRest : (next.takeSteps after rest).1 with
      | error reason => rw [givenRest] at given; cases given
      | ok others =>
        rw [givenRest] at given
        cases given
        obtain ⟨bareRest, calmRest⟩ := ih next after asked.2 givenRest
        rw [source_of_reached reached] at bareRest calmRest
        rw [drawable_of_reached reached] at calmRest
        refine ⟨takeSteps_bare_cons.mpr ⟨answer, others, rfl, givenStep, bareRest⟩, ?_⟩
        rw [Source.signals, List.mem_append, not_or]
        exact calm.elim .inl fun first => calmRest.imp_right fun second => ⟨first, second⟩

/-- **Metering is transparent.** Steps come to the same answers with a nest as on the bare source,
whenever they do on the bare source and either nothing is pulled or every line can be laid out. Each
bar of the nest has then moved by the number of items that were taken out, kept or not: its progress
is what it was and that number, wrapped to 64 bits, and nothing else of it has changed. The source
at the centre is where the bare one is. -/
theorem takeSteps_transparent (nest : Nest) (console : Console) (steps : List Step)
    (asked : .bar ∉ steps) (answers : List Answer) :
    let taken := (nest.source.signals steps).count .item
    let bareRun := (bare nest.source).takeSteps {} steps
    let run := nest.takeSteps console steps
    (run.1 = .ok answers ↔ bareRun.1 = .ok answers ∧ (taken = 0 ∨ nest.Drawable)) ∧
      (run.1 = .ok answers →
        run.2.1.bars = nest.bars.map (·.advance taken) ∧
          run.2.1.bars.map Bar.current =
            nest.bars.map (fun bar => Int64.ofInt (bar.current.toInt + taken)) ∧
          run.2.1.source = bareRun.2.1.source ∧
          nest.source.HasGiven taken run.2.1.source) := by
  intro taken bareRun run
  have nothing : taken = 0 ↔ .item ∉ nest.source.signals steps := List.count_eq_zero
  have calmIff : (nest.Drawable ∨ .item ∉ nest.source.signals steps) ↔
      (taken = 0 ∨ nest.Drawable) := by rw [nothing, or_comm]
  have comes : run.1 = .ok answers ↔ bareRun.1 = .ok answers ∧ (taken = 0 ∨ nest.Drawable) := by
    constructor
    · intro given
      obtain ⟨bareGiven, calm⟩ := takeSteps_bare_of_ok nest console asked given
      exact ⟨bareGiven, calmIff.mp calm⟩
    · rintro ⟨bareGiven, calm⟩
      obtain ⟨own, same, walked⟩ := takeSteps_eq nest console steps bareGiven
        ((calmIff.mpr calm).imp_right fun h => ⟨asked, h⟩)
      rw [show run = _ from walked, same asked]
  refine ⟨comes, fun given => ?_⟩
  obtain ⟨bareGiven, calm⟩ := comes.mp given
  obtain ⟨_, _, walked⟩ := takeSteps_eq nest console steps bareGiven
    ((calmIff.mpr calm).imp_right fun h => ⟨asked, h⟩)
  obtain ⟨_, _, bareWalked⟩ := takeSteps_eq (bare nest.source) {} steps bareGiven
    (.inl (drawable_bare nest.source))
  have bars : run.2.1.bars = nest.bars.map (·.advance taken) := by
    rw [show run = _ from walked]
    exact (bars_receiveAll _ _ _).trans (by rw [bars_withSource])
  have source : run.2.1.source = nest.source.afterAll steps := by
    rw [show run = _ from walked]
    exact (source_receiveAll _ _ _).trans (source_withSource _ _)
  have bareSource : bareRun.2.1.source = nest.source.afterAll steps := by
    rw [show bareRun = _ from bareWalked]
    exact (source_receiveAll _ _ _).trans (source_withSource _ _)
  have progress : run.2.1.bars.map Bar.current =
      nest.bars.map fun bar => Int64.ofInt (bar.current.toInt + taken) := by
    rw [bars, List.map_map]
    exact List.map_congr_left fun bar _ => bar.current_advance taken
  exact ⟨bars, progress, source.trans bareSource.symm, source ▸ nest.source.hasGiven_afterAll steps⟩

/-- Five items in two meters, on a sink that takes nothing: of the four that are taken out, one is
passed over and one is dropped, and both bars go from two to six. -/
theorem takeSteps_transparent_two_meters :
    let bar : Bar := ⟨'#', ('[', ']'), 4, 3, 2, false, true, Template.standard, by decide⟩
    let nest := ((bare (.items [1, 2, 3, 4, 5] none none)).meteredBy bar).meteredBy bar
    let steps : List Step := [.traverse (.nth .front 1), .close, .traverse (.zip 1), .length]
    let run := nest.takeSteps { sink := .failing .noSpace } steps
    .bar ∉ steps ∧
      run.1 = .ok [.yield (.item (some 2)), .closed, .yield (.items [3]), .length 1] ∧
      run.2.1.bars = nest.bars.map (·.advance 4) ∧ run.2.1.bars.map Bar.current = [6, 6] := by
  intro bar nest steps
  have asked : .bar ∉ steps := by decide
  have law := takeSteps_transparent nest { sink := .failing .noSpace } steps asked
    [.yield (.item (some 2)), .closed, .yield (.items [3]), .length 1]
  have taken : (nest.source.signals steps).count .item = 4 := by decide
  have bareRun : ((bare nest.source).takeSteps {} steps).1 =
      .ok [.yield (.item (some 2)), .closed, .yield (.items [3]), .length 1] := rfl
  have given := law.1.mpr ⟨bareRun, .inr (by decide)⟩
  obtain ⟨bars, progress, -⟩ := law.2 given
  rw [taken] at bars progress
  exact ⟨asked, given, bars, progress⟩

end ProgressBar.Iteration.Nest
