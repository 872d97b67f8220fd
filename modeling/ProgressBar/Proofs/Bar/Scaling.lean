import ProgressBar.Bar.Edit
import ProgressBar.Proofs.Bar.Share

/-!
# How exact the shares are

The filled cells and the percentage are computed in words of a fixed size. Whatever is done to a bar
after it was built, none of these words is too small: the products stay inside of 128 bits, the
total that divides them is not zero, and only the quotient is clamped, to 64 bits.

**The law** (`shares_exact`): both shares are the exact quotients cut off toward zero, and replaced
by the end of the 64-bit range only where they pass it. Between zero and the total neither passes
its own end, which are 100 and the width.

The bound on the products is tight: the least progress times the greatest width misses the end of
the range by no more than a progress.
-/

namespace ProgressBar

/-! ## The measures of a bar -/

/-- **A bar has the measures of a configuration**: its width and its total. -/
structure Bar.HasMeasures (bar : Bar) (config : Config) : Prop where
  width : bar.width = config.width
  total : bar.total = config.total

variable {config : Config}

/-- Width and total are fixed when a bar is built, and no change reaches them. -/
theorem Bar.HasMeasures.editOrKeep {bar : Bar} (measures : bar.HasMeasures config)
    (change : Edit) : (bar.editOrKeep change).HasMeasures config :=
  ⟨(bar.width_editOrKeep change).trans measures.width,
    (bar.total_editOrKeep change).trans measures.total⟩

/-- **The bar of a configuration has its measures**, which is where the invariant begins. -/
theorem Bar.hasMeasures_of_ofConfig {bar : Bar} (built : ofConfig config = .ok bar) :
    bar.HasMeasures config := by
  rw [ofConfig] at built
  split at built
  · cases built
    exact ⟨rfl, rfl⟩
  · cases built

namespace Draft

/-- **A draft has the measures of a configuration**: the bar and the copy put aside both have
them. -/
structure HasMeasures (draft : Draft) (config : Config) : Prop where
  bar : draft.bar.HasMeasures config
  saved : draft.saved.HasMeasures config

/-- **No step changes the measures**, neither of the bar nor of the copy that is put aside; so it is
safe to return to the copy. -/
theorem HasMeasures.step {draft : Draft} (measures : draft.HasMeasures config) (step : Step) :
    (draft.step step).HasMeasures config := by
  cases step with
  | change change =>
    rw [step_change]
    exact ⟨measures.bar.editOrKeep change, measures.saved⟩
  | save => exact ⟨measures.bar, measures.bar⟩
  | restore => exact ⟨measures.saved, measures.saved⟩

/-- **No work changes the measures**, step by step, since no step does. -/
theorem HasMeasures.run {draft : Draft} (measures : draft.HasMeasures config)
    (steps : List Step) : (draft.run steps).HasMeasures config := by
  induction steps generalizing draft with
  | nil => exact measures
  | cons step rest ih => exact ih (measures.step step)

/-- **A bar keeps the measures it was built with**, whatever the work on it. -/
theorem hasMeasures_run_ofBar {built : Bar} (accepted : Bar.ofConfig config = .ok built)
    (steps : List Step) : ((ofBar built).run steps).bar.HasMeasures config := by
  have measures := Bar.hasMeasures_of_ofConfig accepted
  have start : (ofBar built).HasMeasures config := ⟨measures, measures⟩
  exact (start.run steps).bar

end Draft

/-! ## Products -/

/-- **The product of a 64-bit number and a smaller factor** stays clear of the ends of 128 bits. -/
theorem product_bounds (current : Int64) {factor : Int} (nonneg : 0 ≤ factor)
    (fits : factor < UInt64.size) :
    -wordEnd 128 < current.toInt * factor ∧ current.toInt * factor < wordEnd 128 - 1 := by
  have ends : wordEnd 128 = 2 ^ 127 := rfl
  have below : factor < 2 ^ 64 := fits
  have low : -2 ^ 63 * factor ≤ current.toInt * factor :=
    Int.mul_le_mul_of_nonneg_right current.le_toInt nonneg
  have high : current.toInt * factor ≤ (2 ^ 63 - 1) * factor :=
    Int.mul_le_mul_of_nonneg_right (Int.le_sub_one_of_lt current.toInt_lt) nonneg
  omega

/-- A width is a word of 64 bits, so the products it occurs in stay far below 128 bits. -/
theorem toNat_width_bounds (width : UInt64) :
    0 ≤ (width.toNat : Int) ∧ (width.toNat : Int) < UInt64.size :=
  ⟨Int.natCast_nonneg _, Int.ofNat_lt.mpr width.toNat_lt_size⟩

/-! ## Quotients -/

/-- **A quotient by a positive number** lies between zero and the dividend, so it stays clear of
whatever the dividend stays clear of. -/
theorem tdiv_bounds {n d bound : Int} (positive : 0 < d) (low : -bound < n) (high : n < bound - 1) :
    -bound < n.tdiv d ∧ n.tdiv d < bound - 1 := by
  have shrinks := Int.natAbs_tdiv_le_natAbs n d
  rcases Int.le_total 0 n with nonneg | nonpos
  · have := Int.tdiv_nonneg nonneg (Int.le_of_lt positive)
    omega
  · have := tdiv_nonpos nonpos positive
    omega

/-- **What is scaled from zero to the total** comes to lie from zero to the scale. -/
theorem scaled_bounds {current total scale : Int} (positive : 0 < total) (nonneg : 0 ≤ current)
    (le : current ≤ total) (scaleNonneg : 0 ≤ scale) :
    0 ≤ (current * scale).tdiv total ∧ (current * scale).tdiv total ≤ scale := by
  refine ⟨Int.tdiv_nonneg (Int.mul_nonneg nonneg scaleNonneg) (Int.le_of_lt positive), ?_⟩
  calc (current * scale).tdiv total
      ≤ (total * scale).tdiv total :=
        Int.tdiv_le_tdiv positive (Int.mul_le_mul_of_nonneg_right le scaleNonneg)
    _ = scale := Int.mul_tdiv_cancel_left scale (Int.ne_of_gt positive)

/-- A number between zero and a bound is still there after it was clamped, since clamping moves it
towards zero. -/
theorem clampTo_bounds {bits : Nat} {n high : Int} (nonneg : 0 ≤ n) (le : n ≤ high)
    (held : 0 < wordEnd bits) : 0 ≤ clampTo bits n ∧ clampTo bits n ≤ high := by
  unfold clampTo
  omega

namespace Bar

variable (bar : Bar)

/-- **The number of filled cells, as an integer.** The product is never clamped, since a progress
and a width of 64 bits each multiply to less than 128; only the quotient is. -/
theorem toInt_filled :
    bar.filled.toInt =
      clampTo 64 ((bar.current.toInt * bar.width.toNat).tdiv bar.total.toInt) := by
  obtain ⟨nonneg, fits⟩ := toNat_width_bounds bar.width
  obtain ⟨low, high⟩ := product_bounds bar.current nonneg fits
  have exact : clampTo 128 (bar.current.toInt * bar.width.toNat) =
      bar.current.toInt * bar.width.toNat := clampTo_of_mem (by omega) (by omega)
  rw [filled, toInt_ofInt_clampTo, exact]

/-- **The shares of a bar between zero and its total** keep to their own ends. -/
theorem shares_bounds {bar : Bar} (nonneg : 0 ≤ bar.current) (le : bar.current ≤ bar.total) :
    (0 ≤ bar.percent.toInt ∧ bar.percent.toInt ≤ 100) ∧
      0 ≤ bar.filled.toInt ∧ bar.filled.toInt ≤ bar.width.toNat := by
  have held : 0 < wordEnd 64 := by decide
  have nonneg : 0 ≤ bar.current.toInt := Int64.le_iff_toInt_le.mp nonneg
  have le : bar.current.toInt ≤ bar.total.toInt := Int64.le_iff_toInt_le.mp le
  rw [toInt_percent, toInt_filled]
  constructor
  · obtain ⟨low, high⟩ := scaled_bounds bar.toInt_total_pos nonneg le (by decide : 0 ≤ (100 : Int))
    exact clampTo_bounds low high held
  · obtain ⟨low, high⟩ := scaled_bounds bar.toInt_total_pos nonneg le
      (toNat_width_bounds bar.width).1
    exact clampTo_bounds low high held

/-- **At its total a bar fills all its cells**, as far as their number can be told. -/
theorem toInt_filled_of_total {bar : Bar} (reached : bar.current = bar.total)
    (told : (bar.width.toNat : Int) ≤ Int64.maxValue.toInt) :
    bar.filled.toInt = bar.width.toNat := by
  have most : Int64.maxValue.toInt = wordEnd 64 - 1 := rfl
  have held : 0 < wordEnd 64 := by decide
  rw [toInt_filled, reached, Int.mul_tdiv_cancel_left _ (Int.ne_of_gt bar.toInt_total_pos)]
  exact clampTo_of_mem (by omega) (by omega)

end Bar

/-! ## Every bar that can be reached -/

/-- **The shares are exact on every bar that can be reached.** Take a bar built from a configuration
and any steps of work on it. It still has the width and the total it was built with, and the total
is at least one. No product with a width, and none with 100, comes to the ends of 128 bits, so
holding it there changes nothing; and no quotient of such a product by the total comes to them. The
filled cells and the percentage are the exact quotients cut off toward zero, clamped to 64 bits.
From zero to the total the percentage lies from 0 to 100 and the filled cells from none to all; at
the total they are all, unless there are more cells than can be told. -/
theorem shares_exact (config : Config) (built : Bar) (accepted : Bar.ofConfig config = .ok built)
    (steps : List Draft.Step) :
    let bar := ((Draft.ofBar built).run steps).bar
    let clamp (n : Int) := max Int64.minValue.toInt (min n Int64.maxValue.toInt)
    (bar.width = config.width ∧ bar.total = config.total ∧ 1 ≤ bar.total.toInt) ∧
      (∀ (current : Int64) (width : UInt64),
        ∀ product ∈ [current.toInt * width.toNat, current.toInt * 100],
          (-wordEnd 128 < product ∧ product < wordEnd 128 - 1) ∧ clampTo 128 product = product ∧
            bar.total.toInt ≠ 0 ∧
            -wordEnd 128 < product.tdiv bar.total.toInt ∧
            product.tdiv bar.total.toInt < wordEnd 128 - 1) ∧
      bar.filled.toInt =
        clamp ((bar.current.toInt * bar.width.toNat).tdiv bar.total.toInt) ∧
      bar.percent.toInt = clamp ((bar.current.toInt * 100).tdiv bar.total.toInt) ∧
      (0 ≤ bar.current → bar.current ≤ bar.total →
        (0 ≤ bar.percent.toInt ∧ bar.percent.toInt ≤ 100) ∧
          0 ≤ bar.filled.toInt ∧ bar.filled.toInt ≤ bar.width.toNat) ∧
      (bar.current = bar.total → (bar.width.toNat : Int) ≤ Int64.maxValue.toInt →
        bar.filled.toInt = bar.width.toNat) := by
  intro bar clamp
  have measures : bar.HasMeasures config := Draft.hasMeasures_run_ofBar accepted steps
  have positive : 0 < bar.total.toInt := bar.toInt_total_pos
  refine ⟨⟨measures.width, measures.total, positive⟩, ?_, bar.toInt_filled, bar.toInt_percent,
    Bar.shares_bounds, Bar.toInt_filled_of_total⟩
  intro current width product mem
  have bounds : -wordEnd 128 < product ∧ product < wordEnd 128 - 1 := by
    rw [List.mem_cons, List.mem_singleton] at mem
    rcases mem with rfl | rfl
    · obtain ⟨nonneg, fits⟩ := toNat_width_bounds width
      exact product_bounds current nonneg fits
    · exact product_bounds current (by decide) (by decide)
  exact ⟨bounds, clampTo_of_mem (by omega) (by omega), Int.ne_of_gt positive,
    tdiv_bounds positive bounds.1 bounds.2⟩

/-- The least progress, the greatest width and a total of one: the product is as far out as any, and
both shares end at the least number of 64 bits. -/
theorem shares_exact_least_progress :
    let config : Config := ⟨'#', UInt64.ofNat (UInt64.size - 1), 1⟩
    let steps : List Draft.Step :=
      [.save, .change (.setStyle (.named "dots")), .change (.setCurrent Int64.minValue)]
    ∃ built, Bar.ofConfig config = .ok built ∧
      let bar := ((Draft.ofBar built).run steps).bar
      bar.current.toInt * bar.width.toNat = -wordEnd 128 + wordEnd 64 ∧
        bar.filled.toInt = Int64.minValue.toInt ∧ bar.percent.toInt = Int64.minValue.toInt := by
  intro config steps
  have valid : config.Valid := by decide
  obtain ⟨built, accepted, -⟩ := Bar.ofConfig_of_valid valid
  obtain ⟨⟨width, total, -⟩, -, filled, percent, -⟩ := shares_exact config built accepted steps
  have current : ((Draft.ofBar built).run steps).bar.current = Int64.minValue := rfl
  refine ⟨built, accepted, ?_, ?_, ?_⟩
  · rw [current, width]
    decide
  · rw [filled, current, width, total]
    decide
  · rw [percent, current, total]
    decide

end ProgressBar
