import ProgressBar.Proofs.Iteration.Signal

/-!
# What a source gives

Items that were pulled are gone: a list or an interval is shorter by as many, and numbers without
end go on further up. `Source.HasGiven` says so of a source before and after.

**The law** (`Source.hasGiven_afterAll`): whatever steps are taken over a source, it has given as
many items as the steps send through the meters around it. So the items that are counted are those
that are gone, whether they were kept, passed over or dropped.
-/

namespace ProgressBar.Iteration.Source

/-- **A source that has given some items**: a list or an interval is shorter by as many, and numbers
without end go on as many steps further up. -/
def HasGiven (before : Source) (n : Nat) (after : Source) : Prop :=
  match before, after with
  | items left hint length, items rest hint' length' =>
    rest.length + n = left.length ∧ hint' = hint ∧ length' = length
  | interval start stop, interval start' stop' =>
    (stop'.toInt - start'.toInt).toNat + n = (stop.toInt - start.toInt).toNat
  | upward start, upward start' => start' = start + Int64.ofNat n
  | _, _ => False

theorem HasGiven.refl (source : Source) : source.HasGiven 0 source := by
  cases source with
  | items left hint length => exact ⟨rfl, rfl, rfl⟩
  | interval start stop => rfl
  | upward start => exact (Int64.add_zero start).symm

/-- **What is given adds up**: some items and then some more are given together. -/
theorem HasGiven.trans {first second third : Source} {m n : Nat} (given : first.HasGiven m second)
    (more : second.HasGiven n third) : first.HasGiven (m + n) third := by
  cases first <;> cases second <;> cases third <;> simp only [HasGiven] at given more ⊢
  · obtain ⟨left, rfl, rfl⟩ := given
    obtain ⟨rest, rfl, rfl⟩ := more
    exact ⟨by omega, rfl, rfl⟩
  · omega
  · rw [more, given, Int64.add_assoc, ← Int64.ofNat_add]

/-- Below some other number there is room for one more, so the sum does not wrap. -/
theorem toInt_add_one {start stop : Int64} (below : start < stop) :
    (start + 1).toInt = start.toInt + 1 := by
  have order := Int64.lt_iff_toInt_lt.mp below
  have low := start.le_toInt
  have high := stop.toInt_lt
  rw [Int64.toInt_add, Int64.toInt_one, Int.bmod_eq_of_le] <;> omega

/-- Above some other number there is room for one less, so the difference does not wrap. -/
theorem toInt_sub_one {start stop : Int64} (below : start < stop) :
    (stop - 1).toInt = stop.toInt - 1 := by
  have order := Int64.lt_iff_toInt_lt.mp below
  have low := start.le_toInt
  have high := stop.toInt_lt
  rw [Int64.toInt_sub, Int64.toInt_one, Int.bmod_eq_of_le] <;> omega

/-- **A pull takes out the item that it gives**, from whichever end, and takes none if it gives
none. -/
theorem hasGiven_pull (source : Source) (side : Side) :
    source.HasGiven (source.pull side).1.toList.length (source.pull side).2 := by
  cases source with
  | items left hint length =>
    cases left with
    | nil => exact ⟨rfl, rfl, rfl⟩
    | cons item left =>
      cases side with
      | front => exact ⟨rfl, rfl, rfl⟩
      | back =>
        refine ⟨?_, rfl, rfl⟩
        rw [List.length_dropLast]
        rfl
  | interval start stop =>
    cases side <;> by_cases below : start < stop
    · have order := Int64.lt_iff_toInt_lt.mp below
      simp only [pull, if_pos below, HasGiven, toInt_add_one below, Option.toList_some,
        List.length_singleton]
      omega
    · simp only [pull, if_neg below]
      exact HasGiven.refl _
    · have order := Int64.lt_iff_toInt_lt.mp below
      simp only [pull, if_pos below, HasGiven, toInt_sub_one below, Option.toList_some,
        List.length_singleton]
      omega
    · simp only [pull, if_neg below]
      exact HasGiven.refl _
  | upward start =>
    cases side with
    | front => rfl
    | back => exact HasGiven.refl _

/-- **A walk takes out what it pulls**, by induction along its pulls; what it does with an item
makes no difference. -/
theorem hasGiven_onBare {α : Type} (walk : Walk α) (source : Source) :
    source.HasGiven (walk.taken source) (walk.onBare source).2 := by
  induction walk generalizing source with
  | done result => exact HasGiven.refl source
  | halt reason => exact HasGiven.refl source
  | pull side next ih => exact (source.hasGiven_pull side).trans (ih _ _)

/-- **A step takes out as many items as it sends signals of**, and changes nothing else of the
source. -/
theorem hasGiven_after (source : Source) (step : Step) :
    source.HasGiven ((step.signals source).count .item) (source.after step) := by
  cases step with
  | traverse traversal =>
    rw [Step.signals, List.count_replicate_self]
    exact source.hasGiven_onBare _
  | sizeHint => exact HasGiven.refl source
  | length => exact HasGiven.refl source
  | close => exact HasGiven.refl source
  | bar => exact HasGiven.refl source

/-- Several steps take out as many items as they send through the meters. -/
theorem hasGiven_afterAll (source : Source) (steps : List Step) :
    source.HasGiven ((source.signals steps).count .item) (source.afterAll steps) := by
  induction steps generalizing source with
  | nil => exact HasGiven.refl source
  | cons step rest ih =>
    rw [signals, List.count_append]
    exact (source.hasGiven_after step).trans (ih _)

end ProgressBar.Iteration.Source
