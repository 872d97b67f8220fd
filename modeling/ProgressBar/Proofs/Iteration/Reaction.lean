import ProgressBar.Proofs.Iteration.Signal
import ProgressBar.Proofs.Printing

/-!
# Steps taken with a nest

How pulls, walks and steps over a nest come out of those over the bare source at its centre.

**The law** (`Nest.step_eq`): a step gives what it gives on the bare source, leaves the source as it
leaves the bare one, and does to the meters what its signals do. `Nest.takeSteps_eq` says the same
of several steps. Both hold where every line of the nest can be laid out, and also where none can
but nothing is pulled; where an item is pulled and a line is too wide, the walk does not end well
(`Nest.run_of_not_drawable`).

The walk is followed by induction, item by item. An item is the only thing that the meters see of
it, and its way through them (`Nest.pass`) does not depend on the source, so the source may be
replaced before or after.
-/

namespace ProgressBar.Iteration

/-- **An item is held up by a meter** exactly when the line of its bar cannot be laid out. -/
theorem Meter.advance_result (meter : Meter) (console : Console) :
    (meter.advance console).1 =
      if meter.bar.Drawable then .ok () else .error .trackTooWide := by
  have tooWide : (meter.bar.tick.draw console).1 = .error .trackTooWide ↔ ¬ meter.bar.Drawable :=
    Bar.draw_eq_trackTooWide_iff
  rw [advance]
  generalize meter.bar.tick.draw console = drawn at tooWide
  obtain ⟨(_ | fault) | done, after⟩ := drawn
  · rw [if_neg (tooWide.mp rfl)]
  · rw [if_pos (Decidable.not_not.mp fun h => nomatch tooWide.mpr h)]
  · rw [if_pos (Decidable.not_not.mp fun h => nomatch tooWide.mpr h)]

namespace Nest

/-! ## What signals leave of the meters -/

/-- An item that passes through a nest moves every bar by one and opens every meter, whatever became
of the lines. -/
theorem meters_pass (nest : Nest) (console : Console) :
    (nest.pass console).1.meters = nest.meters.map fun meter => ⟨meter.bar.tick, true⟩ := by
  induction nest generalizing console with
  | bare source => rfl
  | metered meter inner ih =>
    rw [pass, meters, meters, List.map_cons, ih, meter.advance_meter]

/-- Closing a nest closes its outermost meter; those inside are not told. -/
theorem meters_close (nest : Nest) (console : Console) :
    (nest.close console).1.meters =
      nest.meters.modifyHead fun meter => { meter with isOpen := false } := by
  cases nest with
  | bare source => rfl
  | metered meter inner =>
    rw [close, meters, meters, List.modifyHead_cons, meter.close_meter]

/-- **The bars move with the items** and with nothing else: a close moves none of them, and each
item moves all. -/
theorem bars_receiveAll (nest : Nest) (console : Console) (signals : List Signal) :
    (nest.receiveAll console signals).1.bars =
      nest.bars.map (·.advance (signals.count .item)) := by
  induction signals generalizing nest console with
  | nil => simp [receiveAll, Bar.advance_zero]
  | cons signal rest ih =>
    rw [receiveAll, ih]
    cases signal with
    | item =>
      rw [receive, bars_eq_map_meters, bars_eq_map_meters, meters_pass, List.count_cons_self]
      simp [Bar.tick_eq_advance, Bar.advance_advance, Nat.add_comm]
    | close =>
      rw [receive, bars_eq_map_meters, bars_eq_map_meters, meters_close]
      cases nest.meters <;> simp

/-- Signals do not change the width of a bar, so lines that can be laid out still can. -/
theorem drawable_receiveAll (nest : Nest) (console : Console) (signals : List Signal) :
    (nest.receiveAll console signals).1.Drawable ↔ nest.Drawable := by
  simp only [Drawable, bars_receiveAll, List.forall_mem_map]
  exact Iff.rfl

theorem drawable_withSource (nest : Nest) (other : Source) :
    (nest.withSource other).Drawable ↔ nest.Drawable := by
  rw [Drawable, bars_withSource, Drawable]

section Reached

variable {nest next : Nest} {source : Source} {console after : Console} {signals : List Signal}

/-- Signals do not reach the source: it is the one that was put in before. -/
theorem source_of_reached
    (reached : (nest.withSource source).receiveAll console signals = (next, after)) :
    next.source = source := by
  have kept := source_receiveAll (nest.withSource source) console signals
  rwa [reached, source_withSource] at kept

theorem drawable_of_reached
    (reached : (nest.withSource source).receiveAll console signals = (next, after)) :
    next.Drawable ↔ nest.Drawable := by
  have kept := drawable_receiveAll (nest.withSource source) console signals
  rwa [reached, drawable_withSource] at kept

/-- With another source at the centre the same signals lead to the same meters and the same console.
So the way of a walk over the source can be told apart from what the meters make of it. -/
theorem alike_of_reached (other : Source)
    (reached : (nest.withSource source).receiveAll console signals = (next, after)) :
    (nest.withSource other).receiveAll console signals = (next.withSource other, after) := by
  have alike := receiveAll_withSource (nest.withSource source) other console signals
  rwa [withSource_withSource, reached] at alike

end Reached

/-! ## Pulling an item -/

section Pull

variable {nest : Nest} {source : Source} {side : Side}

/-- Where the source has ended, a pull gives nothing and no meter notices. -/
theorem pull_of_none (console : Console) (ended : nest.source.pull side = (none, source)) :
    nest.pull side console = (.ok none, nest.withSource source, console) := by
  induction nest with
  | bare inner => rw [pull, show inner.pull side = _ from ended, withSource]
  | metered meter inner ih => rw [pull, ih ended]; rfl

/-- **An item of the source passes all the meters**, if their lines can be laid out. -/
theorem pull_of_some {item : Int64} (console : Console) (drawable : nest.Drawable)
    (pulled : nest.source.pull side = (some item, source)) :
    nest.pull side console = (.ok (some item), (nest.withSource source).pass console) := by
  induction nest with
  | bare inner => rw [pull, show inner.pull side = _ from pulled]; rfl
  | metered meter inner ih =>
    obtain ⟨outermost, others⟩ := List.forall_mem_cons.mp drawable
    rw [pull, ih others pulled, withSource, pass]
    dsimp only
    rw [Meter.advance_result, if_pos outermost]
    rfl

/-- **An item is lost on its way out** where a line cannot be laid out. -/
theorem pull_of_not_drawable {item : Int64} (console : Console) (wide : ¬ nest.Drawable)
    (pulled : nest.source.pull side = (some item, source)) :
    (nest.pull side console).1 = .error .trackTooWide := by
  induction nest with
  | bare inner => exact absurd (List.forall_mem_nil _) wide
  | metered meter inner ih =>
    by_cases others : inner.Drawable
    · have outermost : ¬ meter.bar.Drawable := fun h => wide (List.forall_mem_cons.mpr ⟨h, others⟩)
      rw [pull, pull_of_some console others pulled]
      dsimp only
      rw [Meter.advance_result, if_neg outermost]
      rfl
    · have held := ih others pulled
      rw [pull]
      split
      · next heq => rw [heq] at held; cases held
      · next heq => rw [heq] at held; exact held

end Pull

/-! ## Walks -/

variable {α : Type}

/-- One step of a walk over a nest, as an equation to rewrite with. -/
theorem run_pull (side : Side) (next : Option Int64 → Walk α) (nest : Nest) (console : Console) :
    nest.run (.pull side next) console =
      match nest.pull side console with
      | (.ok item, nest, console) => nest.run (next item) console
      | (.error reason, state) => (.error reason, state) := by
  rw [run, Walk.run]
  generalize nest.pull side console = pulled
  obtain ⟨_ | _, _⟩ := pulled <;> rfl

/-- **A walk over a nest gives what it gives over the bare source**, and sends an item through the
meters for every item that it takes out. -/
theorem run_eq (nest : Nest) (console : Console) (walk : Walk α)
    (calm : nest.Drawable ∨ walk.taken nest.source = 0) :
    nest.run walk console =
      ((walk.onBare nest.source).1,
        (nest.withSource (walk.onBare nest.source).2).receiveAll console
          (List.replicate (walk.taken nest.source) .item)) := by
  induction walk generalizing nest console with
  | done result => rw [Walk.onBare, Walk.run, Walk.taken, withSource_self]; rfl
  | halt reason => rw [Walk.onBare, Walk.run, Walk.taken, withSource_self]; rfl
  | pull side next ih =>
    have onBare : (Walk.pull side next).onBare nest.source =
        (next (nest.source.pull side).1).onBare (nest.source.pull side).2 := rfl
    rw [run_pull, onBare]
    rw [Walk.taken] at calm ⊢
    cases pulled : nest.source.pull side with
    | mk item source =>
    rw [pulled] at calm
    cases item with
    | none =>
      have rest := ih none (nest.withSource source) console
        (by simpa [drawable_withSource] using calm)
      rw [pull_of_none console pulled]
      simpa using rest
    | some item =>
      have drawable : nest.Drawable := calm.resolve_right (by simp)
      -- the meters that the item has passed, around the source it has left
      cases passing : (nest.withSource source).pass console with
      | mk passed after =>
      have reached : (nest.withSource source).receiveAll console [.item] = (passed, after) :=
        passing
      have alike (other : Source) :
          (nest.withSource other).pass console = (passed.withSource other, after) :=
        alike_of_reached other reached
      rw [pull_of_some console drawable pulled, passing]
      dsimp only
      rw [ih (some item) passed after (.inl ((drawable_of_reached reached).mpr drawable)),
        source_of_reached reached, Option.toList_some, List.length_singleton, Nat.add_comm,
        List.replicate_succ, receiveAll, receive, alike]

/-- **A walk that takes an item does not end well** where a line cannot be laid out: the first item
stops it. -/
theorem run_of_not_drawable {nest : Nest} (console : Console) {walk : Walk α}
    (wide : ¬ nest.Drawable) (takes : walk.taken nest.source ≠ 0) :
    (nest.run walk console).1 = .error .trackTooWide := by
  induction walk generalizing nest with
  | done result => exact absurd rfl takes
  | halt reason => exact absurd rfl takes
  | pull side next ih =>
    rw [Walk.taken] at takes
    rw [run_pull]
    cases pulled : nest.source.pull side with
    | mk item source =>
    rw [pulled] at takes
    cases item with
    | none =>
      rw [pull_of_none console pulled]
      refine ih none (mt (drawable_withSource nest source).mp wide) ?_
      simpa using takes
    | some item =>
      have held := pull_of_not_drawable console wide pulled
      generalize nest.pull side console = state at held
      obtain ⟨result, state⟩ := state
      cases held
      rfl

/-! ## Steps -/

theorem receiveAll_bare (source : Source) (console : Console) (signals : List Signal) :
    (bare source).receiveAll console signals = (bare source, console) := by
  induction signals with
  | nil => rfl
  | cons signal rest ih => cases signal <;> exact ih

theorem drawable_bare (source : Source) : (bare source).Drawable := List.forall_mem_nil _

/-- **A step gives what it gives on the bare source**, leaves the source as it leaves the bare one,
and sends its signals through the meters. Looking at a bar is left aside: a bare source has none. -/
theorem step_eq (nest : Nest) (console : Console) (step : Step) (asked : step ≠ .bar)
    (calm : nest.Drawable ∨ .item ∉ step.signals nest.source) :
    nest.step step console =
      (((bare nest.source).step step {}).1,
        (nest.withSource (nest.source.after step)).receiveAll console
          (step.signals nest.source)) := by
  cases step with
  | traverse traversal =>
    have calmWalk : nest.Drawable ∨ (traversal.walk nest.source).taken nest.source = 0 := by
      simpa [Step.signals] using calm
    have bareWalk := run_eq (bare nest.source) {} (traversal.walk nest.source)
      (.inl (drawable_bare nest.source))
    rw [Nest.step, Nest.step, run_eq nest console _ calmWalk, Nest.source, bareWalk]
    rfl
  | sizeHint => rw [Nest.step, Source.after, withSource_self]; rfl
  | length => rw [Nest.step, Source.after, withSource_self]; rfl
  | close => rw [Nest.step, Source.after, withSource_self]; rfl
  | bar => exact absurd rfl asked

/-- Looking at the outermost bar changes nothing, and succeeds where its line can be laid out. -/
theorem step_bar {nest : Nest} (console : Console) (drawable : nest.Drawable) :
    ∃ shown, nest.step .bar console = (.ok (.bar shown), nest, console) := by
  cases nest with
  | bare source => exact ⟨none, rfl⟩
  | metered meter inner =>
    have laidOut : meter.bar.line? = some meter.bar.line :=
      Bar.line?_eq_some_iff.mpr ⟨(List.forall_mem_cons.mp drawable).1, rfl⟩
    exact ⟨some (meter.bar, meter.bar.line), by rw [Nest.step, showBar, laidOut]; rfl⟩

/-! ## Runs of steps -/

/-- **Steps taken one after the other**, up to the first that does not come to an answer. -/
def takeSteps (nest : Nest) (console : Console) :
    List Step → Except Halt (List Answer) × Nest × Console
  | [] => (.ok [], nest, console)
  | step :: rest =>
    match nest.step step console with
    | (.ok answer, nest, console) =>
      let (result, nest, console) := nest.takeSteps console rest
      (result.map (answer :: ·), nest, console)
    | (.error reason, nest, console) => (.error reason, nest, console)

/-- A step with a bare source leaves the source as the step leaves it, and the console alone. -/
theorem step_bare (source : Source) (step : Step) :
    (bare source).step step {} =
      (((bare source).step step {}).1, bare (source.after step), {}) := by
  by_cases asked : step = .bar
  · rw [asked]; rfl
  · have reaction := step_eq (bare source) {} step asked (.inl (drawable_bare source))
    rwa [withSource, receiveAll_bare] at reaction

/-- **A step that comes to its answer on the bare source** comes to it with the nest, and then the
meters have received its signals. Only a look at the outermost bar gives an answer of its own. -/
theorem step_eq_ok (nest : Nest) (console : Console) (step : Step) {answer : Answer}
    (given : ((bare nest.source).step step {}).1 = .ok answer)
    (calm : nest.Drawable ∨ step ≠ .bar ∧ .item ∉ step.signals nest.source) :
    ∃ own, (step ≠ .bar → own = answer) ∧
      nest.step step console =
        (.ok own, (nest.withSource (nest.source.after step)).receiveAll console
          (step.signals nest.source)) := by
  by_cases asked : step = .bar
  · subst asked
    have drawable : nest.Drawable := calm.resolve_right fun h => h.1 rfl
    obtain ⟨shown, looked⟩ := step_bar console drawable
    exact ⟨.bar shown, fun h => absurd rfl h, by rw [looked, Source.after, withSource_self]; rfl⟩
  · refine ⟨answer, fun _ => rfl, ?_⟩
    rw [step_eq nest console step asked (calm.imp_right And.right), given]

/-- Steps over a bare source come to their answers if the first does and the others do from where it
leads. -/
theorem takeSteps_bare_cons {source : Source} {step : Step} {rest : List Step}
    {answers : List Answer} :
    ((bare source).takeSteps {} (step :: rest)).1 = .ok answers ↔
      ∃ answer others, answers = answer :: others ∧
        ((bare source).step step {}).1 = .ok answer ∧
        ((bare (source.after step)).takeSteps {} rest).1 = .ok others := by
  rw [takeSteps, step_bare]
  cases ((bare source).step step {}).1 with
  | error reason => simp
  | ok answer =>
    dsimp only
    cases ((bare (source.after step)).takeSteps {} rest).1 with
    | error reason => simp [Except.map]
    | ok others => simp [Except.map, eq_comm]

/-- **A run that comes to its answers on the bare source** comes to the same with the nest, and all
its signals reach the meters. Answers may differ in what is seen of the outermost bar. -/
theorem takeSteps_eq (nest : Nest) (console : Console) (steps : List Step) {answers : List Answer}
    (given : ((bare nest.source).takeSteps {} steps).1 = .ok answers)
    (calm : nest.Drawable ∨ .bar ∉ steps ∧ .item ∉ nest.source.signals steps) :
    ∃ own, (.bar ∉ steps → own = answers) ∧
      nest.takeSteps console steps =
        (.ok own, (nest.withSource (nest.source.afterAll steps)).receiveAll console
          (nest.source.signals steps)) := by
  induction steps generalizing nest console answers with
  | nil =>
    cases given
    exact ⟨[], fun _ => rfl, by rw [Source.afterAll, List.foldl_nil, withSource_self]; rfl⟩
  | cons step rest ih =>
    obtain ⟨answer, others, rfl, givenStep, givenRest⟩ := takeSteps_bare_cons.mp given
    simp only [Source.signals, List.mem_cons, List.mem_append, not_or] at calm
    obtain ⟨own, same, stepped⟩ := step_eq_ok nest console step givenStep
      (calm.imp_right fun h => ⟨Ne.symm h.1.1, h.2.1⟩)
    cases reached : (nest.withSource (nest.source.after step)).receiveAll console
      (step.signals nest.source) with
    | mk next after =>
    have nextSource := source_of_reached reached
    obtain ⟨others', same', walked⟩ := ih next after (nextSource ▸ givenRest) (by
      rw [drawable_of_reached reached, nextSource]
      exact calm.imp_right fun h => ⟨h.1.2, h.2.2⟩)
    refine ⟨own :: others', fun asked => ?_, ?_⟩
    · rw [List.mem_cons, not_or] at asked
      rw [same (Ne.symm asked.1), same' asked.2]
    · rw [takeSteps, stepped, reached]
      dsimp only
      rw [walked, Source.signals, receiveAll_append, alike_of_reached _ reached, nextSource]
      rfl

end Nest

end ProgressBar.Iteration
