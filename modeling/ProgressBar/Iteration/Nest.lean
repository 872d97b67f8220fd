import ProgressBar.Iteration.Meter
import ProgressBar.Iteration.Traversal

/-!
# Metered iterators

A source with any number of meters around it, one inside the other. An item pulled from the nest
comes from the source and passes every meter on its way out, the innermost first; what is asked
about size is answered by the source. Leaving the nest closes every meter, the outermost first.

A nest may be metered by a bar of one's own or by one whose total is the greatest number of items
its hint promises.

**What it does not establish.** The bars of a nest need not agree: each has its own total and may
have started anywhere.
-/

namespace ProgressBar.Iteration

/-- **A source inside any number of meters.** -/
inductive Nest where
  | bare (source : Source)
  | metered (meter : Meter) (inner : Nest)
  deriving DecidableEq

/-- **A step taken with a nest**: to traverse it, to ask for its size, to close its outermost meter,
or to look at its outermost bar. -/
inductive Step where
  | traverse (traversal : Traversal)
  | sizeHint
  | length
  | close
  | bar
  deriving DecidableEq, Repr

/-- **What a step gives.** -/
inductive Answer where
  | yield (value : Yield)
  | sizeHint (hint : SizeHint)
  | length (n : Nat)
  | closed
  /-- The outermost bar and its line, if there is a meter. -/
  | bar (bar : Option (Bar × String))

namespace Nest

/-- The source at the centre. -/
def source : Nest → Source
  | bare source => source
  | metered _ inner => inner.source

/-- The bars around the source, the outermost first. -/
def bars : Nest → List Bar
  | bare _ => []
  | metered meter inner => meter.bar :: inner.bars

/-- How far the outermost bar has come. -/
def current? (nest : Nest) : Option Int64 := nest.bars.head?.map (·.current)

/-- **Pull an item** through all meters. -/
def pull (side : Side) : Nest → Console → Except Halt (Option Int64) × Nest × Console
  | bare source, console =>
    let (item, source) := source.pull side
    (.ok item, bare source, console)
  | metered meter inner, console =>
    match inner.pull side console with
    | (.ok (some item), inner, console) =>
      let (result, meter, console) := meter.advance console
      (result.map fun () => some item, metered meter inner, console)
    | (result, inner, console) => (result, metered meter inner, console)

/-- Close the outermost meter. -/
def close : Nest → Console → Nest × Console
  | bare source, console => (bare source, console)
  | metered meter inner, console =>
    let (meter, console) := meter.close console
    (metered meter inner, console)

/-- **Leave a nest**, closing its meters from the outermost to the innermost. -/
def leave : Nest → Console → Console
  | bare _, console => console
  | metered meter inner, console => inner.leave (meter.close console).2

/-- **Walk over a nest.** -/
def run {α : Type} (walk : Walk α) (nest : Nest) (console : Console) :
    Except Halt α × Nest × Console :=
  walk.run (fun side state => state.1.pull side state.2) (nest, console)

/-- The outermost bar and its line. -/
def showBar : Nest → Except Halt (Option (Bar × String))
  | bare _ => .ok none
  | metered meter _ =>
    match meter.bar.line? with
    | some line => .ok (some (meter.bar, line))
    | none => .error .trackTooWide

/-- **Take a step.** -/
def step (step : Step) (nest : Nest) (console : Console) : Except Halt Answer × Nest × Console :=
  match step with
  | .traverse traversal =>
    let (result, nest, console) := nest.run (traversal.walk nest.source) console
    (result.map .yield, nest, console)
  | .sizeHint => (.ok (.sizeHint nest.source.sizeHint), nest, console)
  | .length => (.ok (.length nest.source.length), nest, console)
  | .close =>
    let (nest, console) := nest.close console
    (.ok .closed, nest, console)
  | .bar => (nest.showBar.map .bar, nest, console)

/-- Put a meter around a nest. -/
def meteredBy (nest : Nest) (bar : Bar) : Nest := metered { bar } nest

/-- **The total a nest promises**: the greatest number of items of its hint. -/
def promisedTotal (nest : Nest) : Except ConfigError Int64 :=
  match nest.source.sizeHint.upper with
  | none => .error .unboundedLength
  | some n => if n ≤ 1 <<< 63 - 1 then .ok (Int64.ofNat n) else .error (.lengthTooLarge n)

/-- **Put a meter around a nest** that is complete with the last item the nest promises. -/
def meteredBySize (nest : Nest) (fill : Char) (width : UInt64) (console : Console) :
    Except ConfigError Nest × Console :=
  match nest.promisedTotal with
  | .error error => (.error error, console)
  | .ok total =>
    let (result, console) := Bar.build ⟨fill, width, total⟩ console
    (result.map nest.meteredBy, console)

end Nest

end ProgressBar.Iteration
