import ProgressBar.Proofs.Iteration.Reaction
import ProgressBar.Proofs.Iteration.Supply

/-!
# Steps that come to an answer

A walk that goes on until the items end carries a limit, and stops as endless when it passes the
limit. Here the limits are shown to be large enough: over a source that ends, no traversal passes
its own.

`Walk.EndsWithin` says of a walk alone that it comes to a result over every source of so many items.
It follows the walk pull by pull: an item uses up one of the number, and the news that there is none
leaves nothing for later pulls.

**The law** (`Source.takeSteps_ok`): over a source that ends, every run of steps comes to its
answers, as long as no step strides by zero.

**What it does not establish.** Nothing is said of a source without end, over which some traversals
do come to an answer.
-/

namespace ProgressBar.Iteration

/-! ## What is left of a source that ends -/

namespace Source

/-- **What is left and what was given make up what there was**, for every source that ends, and no
more can be given than there was. -/
theorem HasGiven.remaining {before after : Source} {given n : Nat}
    (gave : before.HasGiven given after) (left : before.remaining = some n) :
    after.remaining = some (n - given) ∧ given ≤ n := by
  cases before <;> cases after <;> simp only [HasGiven, Source.remaining] at gave left ⊢
  · obtain ⟨given, -, -⟩ := gave
    cases left
    exact ⟨congrArg some (by omega), by omega⟩
  · cases left
    exact ⟨congrArg some (by omega), by omega⟩
  · cases left

/-- **A source that ends can be emptied from either end.** Only one that never ends has a back from
which nothing comes. -/
theorem reach_of_remaining {source : Source} {n : Nat} (left : source.remaining = some n)
    (side : Side) : source.reach side = some n := by
  cases source with
  | upward start => cases left
  | items _ _ _ | interval _ _ => cases side <;> exact left

/-- **A source that ends has no item just when nothing is left of it.** -/
theorem pull_eq_none_iff {source : Source} {side : Side} {n : Nat}
    (left : source.remaining = some n) : (source.pull side).1 = none ↔ n = 0 := by
  cases source with
  | items items hint length =>
    cases left
    cases items <;> cases side <;> simp [pull]
  | interval start stop =>
    simp only [remaining, Option.some.injEq] at left
    have order : start < stop ↔ n ≠ 0 := by rw [Int64.lt_iff_toInt_lt]; omega
    by_cases below : start < stop
    · cases side <;> simp [pull, below, order.mp below]
    · have empty : n = 0 := Decidable.not_not.mp (mt order.mpr below)
      cases side <;> simp [pull, below, empty]
  | upward start => cases left

end Source

/-! ## Walks that end -/

namespace Walk

variable {α β : Type}

/-- **A walk that comes to a result** over every source of exactly so many items. -/
def EndsWithin : Walk α → Nat → Prop
  | done _, _ => True
  | halt _, _ => False
  | pull _ next, 0 => (next none).EndsWithin 0
  | pull _ next, n + 1 => ∀ item, (next (some item)).EndsWithin n

/-- A walk that ends within what is left of a source comes to a result over it. -/
theorem onBare_ok {walk : Walk α} {source : Source} {n : Nat} (ends : walk.EndsWithin n)
    (left : source.remaining = some n) : ∃ result, (walk.onBare source).1 = .ok result := by
  induction walk generalizing source n with
  | done result => exact ⟨result, rfl⟩
  | halt reason => exact ends.elim
  | pull side next ih =>
    have gave := source.hasGiven_pull side
    have whether : (source.pull side).1 = none ↔ n = 0 := Source.pull_eq_none_iff left
    have onBare : (Walk.pull side next).onBare source =
        (next (source.pull side).1).onBare (source.pull side).2 := rfl
    rw [onBare]
    cases pulled : (source.pull side).1 with
    | none =>
      rw [pulled] at gave whether
      have nothing : n = 0 := whether.mp rfl
      subst nothing
      exact ih none ends (gave.remaining left).1
    | some item =>
      rw [pulled] at gave whether
      cases n with
      | zero => exact absurd (whether.mpr rfl) (Option.some_ne_none item)
      | succ n => exact ih (some item) (ends item) (gave.remaining left).1

theorem endsWithin_map {f : α → β} {walk : Walk α} {n : Nat} (ends : walk.EndsWithin n) :
    (walk.map f).EndsWithin n := by
  induction walk generalizing n with
  | done result => trivial
  | halt reason => exact ends
  | pull side next ih =>
    cases n with
    | zero => exact ih none ends
    | succ n => exact fun item => ih (some item) (ends item)

variable {side : Side}

/-- What is passed over only brings the end nearer, so what follows the item behind it has to end
within less. -/
theorem endsWithin_nth_andThen {f : Option Int64 → Walk α} (gap : Nat) {n : Nat}
    (atEnd : (f none).EndsWithin 0) (onward : ∀ item, ∀ m < n, (f (some item)).EndsWithin m) :
    ((nth side gap).andThen f).EndsWithin n := by
  induction gap generalizing n with
  | zero =>
    cases n with
    | zero => exact atEnd
    | succ n => exact fun item => onward item n (Nat.lt_succ_self n)
  | succ gap ih =>
    cases n with
    | zero => exact atEnd
    | succ n => exact fun _ => ih fun item m less => onward item m (Nat.lt_succ_of_lt less)

/-- To pass over some items and take the next ends with any number of items: if there are too few,
the walk ends where they do. -/
theorem endsWithin_nth (passed n : Nat) : (nth side passed).EndsWithin n := by
  induction passed generalizing n with
  | zero => cases n <;> simp [nth, one, EndsWithin]
  | succ passed ih =>
    cases n with
    | zero => trivial
    | succ n => exact fun _ => ih n

/-- To take at most so many items ends with any number of them. -/
theorem endsWithin_take (most : Nat) (taken : List Int64) (n : Nat) :
    (take side most taken).EndsWithin n := by
  induction most generalizing taken n with
  | zero => trivial
  | succ most ih =>
    cases n with
    | zero => trivial
    | succ n => exact fun item => ih (item :: taken) n

theorem endsWithin_takeAndOne (most : Nat) (taken : List Int64) (n : Nat) :
    (takeAndOne side most taken).EndsWithin n := by
  induction most generalizing taken n with
  | zero => cases n <;> simp [takeAndOne, EndsWithin]
  | succ most ih =>
    cases n with
    | zero => trivial
    | succ n => exact fun item => ih (item :: taken) n

/-- To gather all items ends with as many as it is prepared for. This is what the limit of the walk
is for. -/
theorem endsWithin_gather {f : β → Int64 → β} (limit : Nat) (gathered : β) :
    (gather side f limit gathered).EndsWithin limit := by
  induction limit generalizing gathered with
  | zero => trivial
  | succ limit ih => exact fun item => ih (f gathered item)

/-- To look for an item ends, too, with as many items as it is prepared for. -/
theorem endsWithin_find (isWanted : Int64 → Bool) (limit index : Nat) :
    (find side isWanted limit index).EndsWithin limit := by
  induction limit generalizing index with
  | zero => trivial
  | succ limit ih =>
    intro item
    dsimp only
    split
    · trivial
    · exact ih (index + 1)

/-- Every stride takes out an item at least, so the limit also serves where fewer are left. -/
theorem endsWithin_everyBehind (gap limit : Nat) (taken : List Int64) {n : Nat} (le : n ≤ limit) :
    (everyBehind gap limit taken).EndsWithin n := by
  induction limit generalizing taken n with
  | zero =>
    refine endsWithin_nth_andThen gap trivial fun item m less => ?_
    exact absurd less (by omega)
  | succ limit ih =>
    refine endsWithin_nth_andThen gap trivial fun item m less => ?_
    exact ih (item :: taken) (by omega)

/-- To go by strides ends with as many items as it is prepared for, since every stride but one of
length zero takes an item at least. -/
theorem endsWithin_stepBy {stride : Nat} (moves : stride ≠ 0) (limit : Nat) :
    (stepBy stride limit).EndsWithin limit := by
  obtain ⟨gap, rfl⟩ := Nat.exists_eq_succ_of_ne_zero moves
  exact endsWithin_nth_andThen 0 trivial fun item m less =>
    endsWithin_everyBehind gap limit [item] (Nat.le_of_lt less)

end Walk

/-! ## Traversals and steps -/

/-- **The walk of a traversal ends within what is left of its source**, unless it strides by
zero. -/
theorem Traversal.endsWithin_walk {source : Source} {n : Nat} (left : source.remaining = some n)
    {traversal : Traversal} (moves : traversal ≠ .stepBy 0) :
    (traversal.walk source).EndsWithin n := by
  have wholly {α : Type} (side : Side) (walk : Nat → Walk α) :
      toEnd side source walk = walk n := by
    rw [toEnd, Source.reach_of_remaining left]
  have far (value : Int64) : source.distanceTo value = n := by
    cases source with
    | upward start => cases left
    | items _ _ _ | interval _ _ => exact congrArg (Option.getD · 0) left
  cases traversal with
  | next side => exact Walk.endsWithin_map (Walk.endsWithin_nth 0 n)
  | nth side passed => exact Walk.endsWithin_map (Walk.endsWithin_nth passed n)
  | take side most => exact Walk.endsWithin_map (Walk.endsWithin_take most [] n)
  | stepBy stride =>
    have strides : stride ≠ 0 := fun zero => moves (zero ▸ rfl)
    rw [walk, wholly]
    exact Walk.endsWithin_map (Walk.endsWithin_stepBy strides n)
  | zip most => exact Walk.endsWithin_map (Walk.endsWithin_takeAndOne most [] n)
  | drain side =>
    rw [walk, wholly]
    exact Walk.endsWithin_map (Walk.endsWithin_gather n _)
  | count =>
    rw [walk, wholly]
    exact Walk.endsWithin_map (Walk.endsWithin_gather n _)
  | last =>
    rw [walk, wholly]
    exact Walk.endsWithin_map (Walk.endsWithin_gather n _)
  | position value =>
    rw [walk, far]
    exact Walk.endsWithin_map (Walk.endsWithin_find _ n 0)
  | findBack value =>
    rw [walk, far]
    exact Walk.endsWithin_map (Walk.endsWithin_find _ n 0)

namespace Source

/-- **A step over a source that ends comes to its answer**, unless it strides by zero. -/
theorem step_ok {source : Source} {n : Nat} (left : source.remaining = some n) {step : Step}
    (moves : step ≠ .traverse (.stepBy 0)) :
    ∃ answer, ((Nest.bare source).step step {}).1 = .ok answer := by
  cases step with
  | traverse traversal =>
    have ends : (traversal.walk source).EndsWithin n :=
      Traversal.endsWithin_walk left fun zero => moves (zero ▸ rfl)
    obtain ⟨result, walked⟩ := Walk.onBare_ok ends left
    have overBare := Nest.run_eq (.bare source) {} (traversal.walk source)
      (.inl (Nest.drawable_bare source))
    refine ⟨.yield result, ?_⟩
    rw [Nest.step, Nest.source, overBare, Nest.source, walked]
    rfl
  | sizeHint => exact ⟨_, rfl⟩
  | length => exact ⟨_, rfl⟩
  | close => exact ⟨_, rfl⟩
  | bar => exact ⟨_, rfl⟩

/-- **Steps over a source that ends come to their answers**, as long as none strides by zero. -/
theorem takeSteps_ok {source : Source} {n : Nat} (left : source.remaining = some n)
    {steps : List Step} (moves : .traverse (.stepBy 0) ∉ steps) :
    ∃ answers, ((Nest.bare source).takeSteps {} steps).1 = .ok answers := by
  induction steps generalizing source n with
  | nil => exact ⟨[], rfl⟩
  | cons step rest ih =>
    rw [List.mem_cons, not_or] at moves
    obtain ⟨answer, given⟩ := step_ok left (Ne.symm moves.1)
    obtain ⟨others, givenRest⟩ := ih ((source.hasGiven_after step).remaining left).1 moves.2
    exact ⟨answer :: others,
      Nest.takeSteps_bare_cons.mpr ⟨answer, others, rfl, given, givenRest⟩⟩

end Source

end ProgressBar.Iteration
