/-!
# Sources of items

A source hands out numbers one at a time, from its front or from its back. It is a list of items, an
interval of numbers, or all numbers from one upward, which never ends and has no back.

A source also says how much it has left. The **hint** is a promise of at least and at most so many
items; a list may be given a hint, or a length, that stays as it is while the items go.
-/

namespace ProgressBar.Iteration

/-- The two ends of a source. -/
inductive Side where
  | front
  | back
  deriving DecidableEq, Repr

/-- **A size hint**: at least `lower` items are left and at most `upper`, if that is known. -/
structure SizeHint where
  lower : Nat
  upper : Option Nat
  deriving DecidableEq, Repr

/-- The hint of a source with a known number of items. -/
def SizeHint.exact (n : Nat) : SizeHint := ⟨n, some n⟩

/-- The greatest number of items a hint can promise. -/
def SizeHint.greatest : Nat := UInt64.size - 1

/-- **A source.** -/
inductive Source where
  /-- A list of items, with a hint and a length that take the place of the exact ones. -/
  | items (left : List Int64) (fixedHint : Option SizeHint) (fixedLength : Option Nat)
  /-- The numbers from `start` up to but without `stop`. -/
  | interval (start stop : Int64)
  /-- The numbers from `start` upward, the least following the greatest. -/
  | upward (start : Int64)
  deriving DecidableEq, Repr

namespace Source

/-- **How many items are left**, if the source ever ends. -/
def remaining : Source → Option Nat
  | items left _ _ => some left.length
  | interval start stop => some (stop.toInt - start.toInt).toNat
  | upward _ => none

/-- **How many items can be taken from an end**, if they ever run out there: all that are left, and
none from the back of a source that has no back. -/
def reach (side : Side) (source : Source) : Option Nat :=
  match side, source with
  | .back, upward _ => some 0
  | _, source => source.remaining

/-- The hint a source gives. -/
def sizeHint : Source → SizeHint
  | items left fixedHint _ => fixedHint.getD (.exact left.length)
  | interval start stop => .exact (stop.toInt - start.toInt).toNat
  | upward _ => ⟨SizeHint.greatest, none⟩

/-- The length a source gives. -/
def length : Source → Nat
  | items left _ fixedLength => fixedLength.getD left.length
  | interval start stop => (stop.toInt - start.toInt).toNat
  | upward _ => SizeHint.greatest

/-- **Take an item from an end**; nothing comes from a source that has ended. -/
def pull (side : Side) (source : Source) : Option Int64 × Source :=
  match source, side with
  | items [] hint length, _ => (none, items [] hint length)
  | items (item :: left) hint length, .front => (some item, items left hint length)
  | items (item :: left) hint length, .back =>
    (some ((item :: left).getLast (List.cons_ne_nil _ _)),
      items (item :: left).dropLast hint length)
  | interval start stop, .front =>
    if start < stop then (some start, interval (start + 1) stop) else (none, interval start stop)
  | interval start stop, .back =>
    if start < stop then (some (stop - 1), interval start (stop - 1))
    else (none, interval start stop)
  | upward start, .front => (some start, upward (start + 1))
  | upward start, .back => (none, upward start)

/-- How many items stand before `value` is met at the front of a source, at most. -/
def distanceTo (value : Int64) : Source → Nat
  | upward start => ((value.toInt - start.toInt) % UInt64.size).toNat
  | source => source.remaining.getD 0

end Source

end ProgressBar.Iteration
