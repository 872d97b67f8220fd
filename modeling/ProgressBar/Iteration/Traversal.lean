import ProgressBar.Iteration.Walk

/-!
# Traversals

The ways in which an iterator is usually made to give items, each as a walk over a source of known
extent. The extent only bounds the walk; which items are pulled, and when a traversal stops, is in
the walk.
-/

namespace ProgressBar.Iteration

/-- **A traversal.** -/
inductive Traversal where
  /-- The item at an end. -/
  | next (side : Side)
  /-- The item behind `n` others. -/
  | nth (side : Side) (n : Nat)
  /-- At most `n` items. -/
  | take (side : Side) (n : Nat)
  /-- The first item and then every `stride`-th, to the end. -/
  | stepBy (stride : Nat)
  /-- The items joined with `n` others. -/
  | zip (n : Nat)
  /-- All items that are left. -/
  | drain (side : Side)
  /-- How many items are left. -/
  | count
  /-- The last item. -/
  | last
  /-- Where a value stands. -/
  | position (value : Int64)
  /-- A value, looked for from the back. -/
  | findBack (value : Int64)
  deriving DecidableEq, Repr

/-- **What a traversal gives.** -/
inductive Yield where
  | item (item : Option Int64)
  | items (items : List Int64)
  | count (n : Nat)
  | index (index : Option Nat)
  deriving DecidableEq, Repr

namespace Traversal

/-- A walk that takes from one end of a source until nothing comes from there. -/
def toEnd {α : Type} (side : Side) (source : Source) (walk : Nat → Walk α) : Walk α :=
  match source.reach side with
  | some limit => walk limit
  | none => .halt .endless

/-- **The walk of a traversal** over a source of that extent. -/
def walk (source : Source) : Traversal → Walk Yield
  | next side => (Walk.one side).map .item
  | nth side n => (Walk.nth side n).map .item
  | take side n => (Walk.take side n []).map .items
  | stepBy stride => (toEnd .front source (Walk.stepBy stride)).map .items
  | zip n => (Walk.takeAndOne .front n []).map .items
  | drain side =>
    (toEnd side source fun limit =>
      Walk.gather side (fun taken item => item :: taken) limit []).map
      fun taken => .items taken.reverse
  | count =>
    (toEnd .front source fun limit => Walk.gather .front (fun n _ => n + 1) limit 0).map .count
  | last =>
    (toEnd .front source fun limit =>
      Walk.gather .front (fun _ item => some item) limit none).map .item
  | position value =>
    (Walk.find .front (· == value) (source.distanceTo value) 0).map fun found =>
      .index (found.map (·.1))
  | findBack value =>
    (Walk.find .back (· == value) (source.distanceTo value) 0).map fun found =>
      .item (found.map (·.2))

end Traversal

end ProgressBar.Iteration
