import ProgressBar.Iteration.Nest

/-!
# What reaches the meters of a nest

The meters around a source see two things only: an item that passes all of them on its way out, and
the wish to close the outermost. These are the **signals**. What a step gives is decided by the
source; which signals it sends is decided by the source as well, and the meters do the rest.

**The law** (`Nest.receiveAll_withSource`): signals do the same to the meters around every source,
and leave the source alone. So the source may be followed by itself and the meters by the signals.

**What it does not establish.** What the meters write when a signal reaches them is told elsewhere;
here a signal is followed through the nest, not through the console.
-/

namespace ProgressBar.Iteration

/-- **What reaches the meters of a nest.** -/
inductive Signal where
  /-- An item passes every meter, the innermost first. -/
  | item
  /-- The outermost meter is to be closed. -/
  | close
  deriving DecidableEq, Repr

/-! ## Walks over a bare source -/

namespace Walk

variable {α : Type}

/-- **A walk over a bare source**, which nothing can stop but the walk itself. -/
def onBare (walk : Walk α) (source : Source) : Except Halt α × Source :=
  walk.run (fun side source => (.ok (source.pull side).1, (source.pull side).2)) source

/-- **How many items a walk takes out** of a source, whatever it then does with them. -/
def taken : Walk α → Source → Nat
  | done _, _ => 0
  | halt _, _ => 0
  | pull side next, source =>
    (source.pull side).1.toList.length + (next (source.pull side).1).taken (source.pull side).2

end Walk

/-- The signals of a step taken over a source. -/
def Step.signals (source : Source) : Step → List Signal
  | .traverse traversal => List.replicate ((traversal.walk source).taken source) .item
  | .close => [.close]
  | .sizeHint | .length | .bar => []

/-- A source after a step. -/
def Source.after (source : Source) : Step → Source
  | .traverse traversal => ((traversal.walk source).onBare source).2
  | .close | .sizeHint | .length | .bar => source

/-- A source after several steps. -/
def Source.afterAll (source : Source) (steps : List Step) : Source :=
  steps.foldl Source.after source

/-- **The signals of several steps**, taken one after the other over a source. -/
def Source.signals (source : Source) : List Step → List Signal
  | [] => []
  | step :: rest => step.signals source ++ (source.after step).signals rest

namespace Nest

/-! ## The parts of a nest -/

/-- The meters around the source, the outermost first. -/
def meters : Nest → List Meter
  | bare _ => []
  | metered meter inner => meter :: inner.meters

/-- The nest with another source at its centre. -/
def withSource (other : Source) : Nest → Nest
  | bare _ => bare other
  | metered meter inner => metered meter (inner.withSource other)

/-- **Every line of a nest can be laid out.** -/
def Drawable (nest : Nest) : Prop := ∀ bar ∈ nest.bars, bar.Drawable

instance (nest : Nest) : Decidable nest.Drawable :=
  inferInstanceAs (Decidable (∀ bar ∈ nest.bars, bar.Drawable))

variable (nest : Nest) (source other : Source) (console : Console)

/-- The bars of a nest are those of its meters, in the same order. -/
theorem bars_eq_map_meters : nest.bars = nest.meters.map Meter.bar := by
  induction nest with
  | bare source => rfl
  | metered meter inner ih => rw [bars, meters, List.map_cons, ih]

@[simp] theorem source_withSource : (nest.withSource other).source = other := by
  induction nest with
  | bare source => rfl
  | metered meter inner ih => exact ih

@[simp] theorem meters_withSource : (nest.withSource other).meters = nest.meters := by
  induction nest with
  | bare source => rfl
  | metered meter inner ih => rw [withSource, meters, ih, meters]

@[simp] theorem bars_withSource : (nest.withSource other).bars = nest.bars := by
  rw [bars_eq_map_meters, meters_withSource, bars_eq_map_meters]

@[simp] theorem withSource_withSource :
    (nest.withSource source).withSource other = nest.withSource other := by
  induction nest with
  | bare source => rfl
  | metered meter inner ih => rw [withSource, withSource, ih, withSource]

@[simp] theorem withSource_self : nest.withSource nest.source = nest := by
  induction nest with
  | bare source => rfl
  | metered meter inner ih => rw [withSource, Nest.source, ih]

/-! ## Signals through a nest -/

/-- **An item passes the meters**, the innermost first. -/
def pass : Nest → Console → Nest × Console
  | bare source, console => (bare source, console)
  | metered meter inner, console =>
    let (inner, console) := inner.pass console
    let (_, meter, console) := meter.advance console
    (metered meter inner, console)

/-- A signal reaches the meters. -/
def receive (nest : Nest) (console : Console) : Signal → Nest × Console
  | .item => nest.pass console
  | .close => nest.close console

/-- **Signals reach the meters** one after the other. -/
def receiveAll (nest : Nest) (console : Console) : List Signal → Nest × Console
  | [] => (nest, console)
  | signal :: rest =>
    let (nest, console) := nest.receive console signal
    nest.receiveAll console rest

theorem receiveAll_append (first second : List Signal) :
    nest.receiveAll console (first ++ second) =
      (nest.receiveAll console first).1.receiveAll (nest.receiveAll console first).2 second := by
  induction first generalizing nest console with
  | nil => rfl
  | cons signal rest ih => exact ih _ _

/-- An item passes through the meters in the same way whatever the source is. -/
theorem pass_withSource :
    (nest.withSource other).pass console =
      ((nest.pass console).1.withSource other, (nest.pass console).2) := by
  induction nest with
  | bare source => rfl
  | metered meter inner ih => rw [withSource, pass, ih]; rfl

/-- And so every signal is received in the same way whatever the source is. -/
theorem receive_withSource (signal : Signal) :
    (nest.withSource other).receive console signal =
      ((nest.receive console signal).1.withSource other, (nest.receive console signal).2) := by
  cases signal with
  | item => exact nest.pass_withSource other console
  | close => cases nest <;> rfl

/-- **Signals leave the source alone**, whichever it is. So meters and source can be followed apart
from each other. -/
theorem receiveAll_withSource (signals : List Signal) :
    (nest.withSource other).receiveAll console signals =
      ((nest.receiveAll console signals).1.withSource other,
        (nest.receiveAll console signals).2) := by
  induction signals generalizing nest console with
  | nil => rfl
  | cons signal rest ih =>
    rw [receiveAll, receive_withSource]
    exact ih _ _

@[simp] theorem source_receiveAll (signals : List Signal) :
    (nest.receiveAll console signals).1.source = nest.source := by
  have unchanged := nest.receiveAll_withSource nest.source console signals
  rw [withSource_self] at unchanged
  rw [unchanged]
  exact source_withSource _ _

end Nest

end ProgressBar.Iteration
