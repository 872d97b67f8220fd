import ProgressBar.Iteration.Source

/-!
# Walks

A walk is what somebody does with an iterator: it pulls items from one end or the other, decides
after each what to do next, and comes to a result. A walk does not know what it walks over.
`Walk.run` walks it over anything that can be pulled from, which may stop it with a reason of its
own.

Here are the walks that common iterator operations make, each described by the items it pulls. A
walk always ends: one that goes on until the items end is given a number that the items cannot pass.

**What it does not establish.** That the number given is large enough is a fact about the source; a
walk that passes it stops as endless.
-/

namespace ProgressBar.Iteration

/-- **Why a walk stops without a result.** -/
inductive Halt where
  /-- The line of a bar could not be laid out. -/
  | trackTooWide
  /-- The items never end. -/
  | endless
  /-- Steps of no length lead nowhere. -/
  | zeroStride
  deriving DecidableEq, Repr

/-- **A walk** that comes to an `α`. -/
inductive Walk (α : Type) where
  | done (result : α)
  | halt (reason : Halt)
  /-- Pull an item, and go on with it or with the news that there is none. -/
  | pull (side : Side) (next : Option Int64 → Walk α)

namespace Walk

variable {α β σ : Type}

/-- **A walk over a state** that items can be pulled from. -/
def run (pullFrom : Side → σ → Except Halt (Option Int64) × σ) : Walk α → σ → Except Halt α × σ
  | done result, state => (.ok result, state)
  | halt reason, state => (.error reason, state)
  | pull side next, state =>
    match pullFrom side state with
    | (.ok item, state) => (next item).run pullFrom state
    | (.error reason, state) => (.error reason, state)

/-- A walk whose result is looked at in another way. -/
def map (f : α → β) : Walk α → Walk β
  | done result => done (f result)
  | halt reason => halt reason
  | pull side next => pull side fun item => (next item).map f

/-- A walk followed by another that depends on its result. -/
def andThen : Walk α → (α → Walk β) → Walk β
  | done result, f => f result
  | halt reason, _ => halt reason
  | pull side next, f => pull side fun item => (next item).andThen f

/-- **One item.** -/
def one (side : Side) : Walk (Option Int64) := pull side done

/-- **The item behind `n` others**, which are passed over; none if the items end before. -/
def nth (side : Side) : Nat → Walk (Option Int64)
  | 0 => one side
  | n + 1 => pull side fun
    | none => done none
    | some _ => nth side n

/-- **At most `n` items**, behind those that were `taken` before, the last of them first. -/
def take (side : Side) : Nat → List Int64 → Walk (List Int64)
  | 0, taken => done taken.reverse
  | n + 1, taken => pull side fun
    | none => done taken.reverse
    | some item => take side n (item :: taken)

/-- **At most `n` items and one more**, which is pulled and dropped: what joining them with `n`
others, item by item, takes out. -/
def takeAndOne (side : Side) : Nat → List Int64 → Walk (List Int64)
  | 0, taken => pull side fun _ => done taken.reverse
  | n + 1, taken => pull side fun
    | none => done taken.reverse
    | some item => takeAndOne side n (item :: taken)

/-- **All items gathered up** from the first to the last, of which there are at most `limit`. -/
def gather (side : Side) (f : β → Int64 → β) : Nat → β → Walk β
  | 0, gathered => pull side fun
    | none => done gathered
    | some _ => halt .endless
  | limit + 1, gathered => pull side fun
    | none => done gathered
    | some item => gather side f limit (f gathered item)

/-- **The first item that is wanted**, with the number of items before it. -/
def find (side : Side) (isWanted : Int64 → Bool) : Nat → Nat → Walk (Option (Nat × Int64))
  | 0, index => pull side fun
    | none => done none
    | some item => if isWanted item then done (some (index, item)) else halt .endless
  | limit + 1, index => pull side fun
    | none => done none
    | some item =>
      if isWanted item then done (some (index, item)) else find side isWanted limit (index + 1)

/-- The items behind every `gap` others, of which there are at most `limit`. -/
def everyBehind (gap : Nat) : Nat → List Int64 → Walk (List Int64)
  | 0, taken => (nth .front gap).andThen fun
    | none => done taken.reverse
    | some _ => halt .endless
  | limit + 1, taken => (nth .front gap).andThen fun
    | none => done taken.reverse
    | some item => everyBehind gap limit (item :: taken)

/-- **The first item and then every `stride`-th.** -/
def stepBy (stride limit : Nat) : Walk (List Int64) :=
  match stride with
  | 0 => halt .zeroStride
  | gap + 1 => (one .front).andThen fun
    | none => done []
    | some item => everyBehind gap limit [item]

end Walk

end ProgressBar.Iteration
