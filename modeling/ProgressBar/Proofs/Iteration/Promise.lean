import ProgressBar.Proofs.Bar.Frames
import ProgressBar.Proofs.Iteration.Answers
import ProgressBar.Proofs.Iteration.Transcript

/-!
# Meters that follow a promise

A meter that takes its total from the hint of what it is put around. Over a source whose hint is
exact the promise is kept: what was pulled and what is left make up the total as long as the meter
is used, so the bar is complete with the last item and not before.

**The law** (`Nest.meteredBySizes_promise`): any number of such meters can be put around a source of
`n` items just when `n` is a total, and after `m` items each of them stands at `m` of `n`, whatever
the items were pulled for and from which ends they came. Only what is drawn with the last item ends
its lines, and nothing is left for closing.

**What it does not establish.** A hint that is given to a source from outside may promise anything;
nothing is said of the bars that follow it.
-/

namespace ProgressBar.Iteration

/-! ## Sources with a hint of their own -/

namespace Source

/-- **A source whose hint is its own**: an interval, or items that no hint was fixed for. -/
def HintsExactly : Source → Prop
  | items _ fixedHint _ => fixedHint = none
  | interval _ _ => True
  | upward _ => False

instance : (source : Source) → Decidable source.HintsExactly
  | items _ fixedHint _ => inferInstanceAs (Decidable (fixedHint = none))
  | interval _ _ => .isTrue trivial
  | upward _ => .isFalse id

/-- The length that was fixed for a source, if one was. -/
def fixedLength? : Source → Option Nat
  | items _ _ fixedLength => fixedLength
  | interval _ _ | upward _ => none

variable {source after : Source} {n given : Nat}

/-- **The hint of its own is exact**, and so is the length, unless that was fixed. -/
theorem sizes_of_hintsExactly (own : source.HintsExactly) (left : source.remaining = some n) :
    source.sizeHint = .exact n ∧ source.length = source.fixedLength?.getD n := by
  cases source with
  | items items fixedHint fixedLength =>
    cases own
    cases left
    exact ⟨rfl, rfl⟩
  | interval start stop =>
    cases left
    exact ⟨rfl, rfl⟩
  | upward start => exact own.elim

/-- A source keeps its own hint while items are taken from it, and keeps the length that was fixed
for it, if one was. -/
theorem HasGiven.hintsExactly (gave : source.HasGiven given after) (own : source.HintsExactly) :
    after.HintsExactly ∧ after.fixedLength? = source.fixedLength? := by
  cases source <;> cases after <;> simp only [HasGiven] at gave
  · exact ⟨gave.2.1.trans own, gave.2.2⟩
  · exact ⟨own, rfl⟩
  · exact own.elim

end Source

/-! ## Closing complete bars -/

/-- A complete bar has ended its line already, so there is nothing to close. -/
theorem Meter.close_of_isComplete {meter : Meter} (complete : meter.bar.isComplete = true)
    (console : Console) : (meter.close console).2 = console := by
  rw [close, complete]
  simp

namespace Nest

/-- The same for a nest, of which only the outermost meter is closed. -/
theorem close_of_isComplete {nest : Nest} (complete : ∀ bar ∈ nest.bars, bar.isComplete = true)
    (console : Console) : (nest.close console).2 = console := by
  cases nest with
  | bare source => rfl
  | metered meter inner =>
    exact Meter.close_of_isComplete (List.forall_mem_cons.mp complete).1 console

/-- **Complete bars leave nothing to be said**, neither on a close nor when the nest is left. -/
theorem leave_of_isComplete {nest : Nest} (complete : ∀ bar ∈ nest.bars, bar.isComplete = true)
    (console : Console) : nest.leave console = console := by
  induction nest with
  | bare source => rfl
  | metered meter inner ih =>
    obtain ⟨outermost, others⟩ := List.forall_mem_cons.mp complete
    rw [leave, Meter.close_of_isComplete outermost]
    exact ih others

/-! ## Building by promise -/

/-- **Meters put around a nest by its size**, each given by the symbol and the number of its cells,
the innermost first. -/
def meteredBySizes (nest : Nest) (console : Console) :
    List (Char × UInt64) → Except ConfigError Nest × Console
  | [] => (.ok nest, console)
  | (fill, width) :: outer =>
    match nest.meteredBySize fill width console with
    | (.ok nest, console) => nest.meteredBySizes console outer
    | (.error error, console) => (.error error, console)

/-- **A nest that was promised some items**: fresh meters around a source, all of them at the
beginning of the same total. -/
structure Promised (nest : Nest) (source : Source) (n : Nat) : Prop where
  source : nest.source = source
  fresh : nest.Fresh
  bars : ∀ bar ∈ nest.bars, bar.current = 0 ∧ bar.total.toInt = n

section Build

variable {nest : Nest} {n : Nat}

/-- **A number of items is a total** when it is positive and not too great. -/
def IsTotal (n : Nat) : Prop := 1 ≤ n ∧ n ≤ Int64.maxValue.toInt

/-- The total that a nest promises is the number of items at its centre, as long as that fits;
meters in between pass the hint on as it is. -/
theorem promisedTotal_eq (own : nest.source.HintsExactly)
    (left : nest.source.remaining = some n) :
    nest.promisedTotal =
      if n ≤ Int64.maxValue.toInt then .ok (Int64.ofNat n) else .error (.lengthTooLarge n) := by
  have greatest : n ≤ 1 <<< 63 - 1 ↔ n ≤ Int64.maxValue.toInt := by
    rw [Int64.toInt_maxValue]
    omega
  rw [promisedTotal, (Source.sizes_of_hintsExactly own left).1]
  exact ite_congr (propext greatest) (fun _ => rfl) fun _ => rfl

/-- **A promise of a total puts a meter around the nest** that starts from zero. -/
theorem meteredBySize_of_isTotal (own : nest.source.HintsExactly)
    (left : nest.source.remaining = some n) (total : IsTotal n) (fill : Char) (width : UInt64)
    (console : Console) :
    ∃ bar, nest.meteredBySize fill width console =
        (.ok (nest.meteredBy bar), console.report (.built width (Int64.ofNat n))) ∧
      bar.current = 0 ∧ bar.total.toInt = n ∧ bar.width = width := by
  have value : (Int64.ofNat n).toInt = n := Bar.toInt_ofNat total.2
  have valid : (⟨fill, width, Int64.ofNat n⟩ : Config).Valid := by
    have := total.1
    rw [Config.Valid, Int64.lt_iff_toInt_lt, value, Int64.toInt_zero]
    omega
  obtain ⟨bar, built, fromZero, barTotal, barWidth⟩ := Bar.ofConfig_of_valid valid
  refine ⟨bar, ?_, fromZero, by rw [barTotal, value], barWidth⟩
  rw [meteredBySize, promisedTotal_eq own left, if_pos total.2]
  simp only [Bar.build, built]
  rfl

/-- **Any other promise is refused**, and nothing is written about it. No items make a total of
zero, and too many make none that a bar could have. -/
theorem meteredBySize_of_not_isTotal (own : nest.source.HintsExactly)
    (left : nest.source.remaining = some n) (noTotal : ¬ IsTotal n) (fill : Char)
    (width : UInt64) (console : Console) :
    ∃ error after, nest.meteredBySize fill width console = (.error error, after) ∧
      after.sink = console.sink := by
  rw [meteredBySize, promisedTotal_eq own left]
  by_cases small : n ≤ Int64.maxValue.toInt
  · have nothing : n = 0 := by
      have : ¬ 1 ≤ n := fun positive => noTotal ⟨positive, small⟩
      omega
    subst nothing
    exact ⟨_, _, rfl, rfl⟩
  · rw [if_neg small]
    exact ⟨_, _, rfl, rfl⟩

/-- **Meters by size all get the same promise**, since each passes on the size of what it is put
around. -/
theorem meteredBySizes_of_isTotal {source : Source} (own : source.HintsExactly)
    (left : source.remaining = some n) (total : IsTotal n) (promised : nest.Promised source n)
    (console : Console) (layers : List (Char × UInt64)) :
    ∃ made after, nest.meteredBySizes console layers = (.ok made, after) ∧
      after.sink = console.sink ∧ made.Promised source n ∧
      made.bars.map Bar.width = (layers.map Prod.snd).reverse ++ nest.bars.map Bar.width := by
  induction layers generalizing nest console with
  | nil => exact ⟨nest, console, rfl, rfl, promised, rfl⟩
  | cons layer outer ih =>
    obtain ⟨fill, width⟩ := layer
    obtain ⟨bar, put, fromZero, barTotal, barWidth⟩ := meteredBySize_of_isTotal
      (promised.source.symm ▸ own) (promised.source.symm ▸ left) total fill width console
    have promisedThen : (nest.meteredBy bar).Promised source n :=
      ⟨promised.source, fresh_meteredBy promised.fresh bar,
        List.forall_mem_cons.mpr ⟨⟨fromZero, barTotal⟩, promised.bars⟩⟩
    obtain ⟨made, after, puts, sink, promisedLast, widths⟩ :=
      ih promisedThen (console.report (.built width (Int64.ofNat n)))
    refine ⟨made, after, ?_, sink, promisedLast, ?_⟩
    · rw [meteredBySizes, put]
      exact puts
    · rw [widths, meteredBy, bars, List.map_cons, barWidth, List.map_cons, List.reverse_cons,
        List.append_assoc, List.singleton_append]

/-- The innermost meter asks first. So if the source has no items or too many, no meter is put
around it at all, and nothing is written. -/
theorem meteredBySizes_of_not_isTotal {source : Source} (own : source.HintsExactly)
    (left : source.remaining = some n) (noTotal : ¬ IsTotal n) (console : Console)
    {layers : List (Char × UInt64)} (inside : layers ≠ []) :
    ∃ error after, (bare source).meteredBySizes console layers = (.error error, after) ∧
      after.sink = console.sink := by
  obtain ⟨⟨fill, width⟩, outer, rfl⟩ := List.exists_cons_of_ne_nil inside
  have bareOwn : (bare source).source.HintsExactly := own
  obtain ⟨error, after, refused, sink⟩ :=
    meteredBySize_of_not_isTotal bareOwn left noTotal fill width console
  exact ⟨error, after, by rw [meteredBySizes, refused], sink⟩

end Build

/-! ## Following a promise -/

/-- If all tracks that were asked for fit, every line of the nest can be laid out. -/
theorem drawable_of_widths {nest : Nest} {layers : List (Char × UInt64)}
    (widths : nest.bars.map Bar.width = (layers.map Prod.snd).reverse)
    (narrow : ∀ layer ∈ layers, TrackFits layer.2) : nest.Drawable := by
  intro bar mem
  have width : bar.width ∈ nest.bars.map Bar.width := List.mem_map_of_mem mem
  rw [widths, List.mem_reverse] at width
  obtain ⟨layer, layerMem, same⟩ := List.mem_map.mp width
  have fits := narrow layer layerMem
  rwa [same] at fits

section Follow

variable {nest : Nest} {source : Source} {n m : Nat}

/-- **After some of the items** every bar of a nest that was promised them stands at their number,
and is complete just when these were all. -/
theorem Promised.bars_advance (promised : nest.Promised source n) (le : m ≤ n) :
    ∀ bar ∈ nest.bars.map (Bar.advance · m), bar.current.toInt = m ∧ bar.total.toInt = n ∧
      (bar.isComplete = true ↔ m = n) := by
  rw [List.forall_mem_map]
  intro bar mem
  obtain ⟨fromZero, barTotal⟩ := promised.bars bar mem
  refine ⟨Bar.toInt_current_advance fromZero barTotal le, barTotal, ?_⟩
  rw [Bar.isComplete_iff, Bar.total_le_current_advance_iff fromZero barTotal le]

/-- **Only the line of the last item is ended** when it is drawn. The lines before are ended by a
carriage return each, to be drawn over. -/
theorem Promised.drawnLine_advance (promised : nest.Promised source n) :
    ∀ bar ∈ nest.bars, ∀ k ≤ n, (bar.advance k).drawnLine =
      (bar.advance k).line ++ if k = n then "\n" else "\r" := by
  intro bar mem k bound
  obtain ⟨fromZero, barTotal⟩ := promised.bars bar mem
  rw [Bar.drawnLine]
  simp only [Bar.total_le_current_advance_iff fromZero barTotal bound]

/-- **Hint and length tell what is left** of a source whose hint is its own. A length that was fixed
for the source stays as it is, whatever is left. -/
theorem step_sizes (own : source.HintsExactly) (left : source.remaining = some n)
    (gave : source.HasGiven m nest.source) (console : Console) :
    (nest.step .sizeHint console).1 = .ok (.sizeHint (.exact (n - m))) ∧
      (source.fixedLength? = none → (nest.step .length console).1 = .ok (.length (n - m))) ∧
      ∀ fixed, source.fixedLength? = some fixed →
        (nest.step .length console).1 = .ok (.length fixed) := by
  obtain ⟨ownThen, fixedThen⟩ := gave.hintsExactly own
  obtain ⟨hint, length⟩ := Source.sizes_of_hintsExactly ownThen (gave.remaining left).1
  rw [fixedThen] at length
  refine ⟨by rw [step, hint], fun unfixed => ?_, fun fixed isFixed => ?_⟩
  · rw [step, length, unfixed, Option.getD_none]
  · rw [step, length, isFixed, Option.getD_some]

end Follow

/-- **A promise is kept.** Put meters by size around a source of `n` items whose hint is its own.
They can be put just when `n` is a total, and nothing is written about it either way. Then let their
lines fit, let the console work, and take any steps but those that stride by zero. They come to
their answers, and with `m` the number of items they took out, `m` of `n` items are gone from the
source, each bar stands at `m` of `n`, and the hint tells the rest, which is `n - m`. So does the
length, unless another was fixed for the source, which it then keeps. What was written is the
transcript of the steps, in which the lines of every item end with a carriage return but those of
the last, which end with a line feed. A nest whose last item was taken writes nothing any more. -/
theorem meteredBySizes_promise (source : Source) (own : source.HintsExactly) (n : Nat)
    (left : source.remaining = some n) (layers : List (Char × UInt64)) (inside : layers ≠ [])
    (console : Console) :
    let made := (bare source).meteredBySizes console layers
    ((∃ nest, made.1 = .ok nest) ↔ 1 ≤ n ∧ n ≤ Int64.maxValue.toInt) ∧
      made.2.sink = console.sink ∧
      ∀ nest, made.1 = .ok nest → nest.source = source ∧
        ((∀ layer ∈ layers, TrackFits layer.2) → console.sink.Works →
          ∀ steps, .traverse (.stepBy 0) ∉ steps →
            let m := (source.signals steps).count .item
            ∃ answers next after, nest.takeSteps made.2 steps = (.ok answers, next, after) ∧
              source.HasGiven m next.source ∧ m ≤ n ∧
              (next.step .sizeHint after).1 = .ok (.sizeHint (.exact (n - m))) ∧
              (source.fixedLength? = none →
                (next.step .length after).1 = .ok (.length (n - m))) ∧
              (∀ fixed, source.fixedLength? = some fixed →
                (next.step .length after).1 = .ok (.length fixed)) ∧
              next.bars.length = layers.length ∧
              (∀ bar ∈ next.bars, bar.current.toInt = m ∧ bar.total.toInt = n ∧
                (bar.isComplete = true ↔ m = n)) ∧
              after.sink.taken =
                console.sink.taken ++ (transcript nest.bars [] (source.signals steps)).toUTF8 ∧
              (∀ bar ∈ nest.bars, ∀ k ≤ n, (bar.advance k).drawnLine =
                (bar.advance k).line ++ if k = n then "\n" else "\r") ∧
              (m = n → ∀ later, (next.close later).2 = later ∧ next.leave later = later)) := by
  intro made
  by_cases total : IsTotal n
  · have begin : (bare source).Promised source n :=
      ⟨rfl, fresh_bare source, List.forall_mem_nil _⟩
    obtain ⟨nest, start, puts, sink, promised, widths⟩ :=
      meteredBySizes_of_isTotal own left total begin console layers
    rw [bars, List.map_nil, List.append_nil] at widths
    rw [show made = _ from puts]
    refine ⟨⟨fun _ => total, fun _ => ⟨nest, rfl⟩⟩, sink, fun nest' ok => ?_⟩
    cases ok
    refine ⟨promised.source, fun narrow works steps moves => ?_⟩
    intro m
    obtain ⟨bareAnswers, ends⟩ := Source.takeSteps_ok left moves
    obtain ⟨answers, next, after, walked, nextSource, nextBars, prints, -⟩ :=
      takeSteps_prints promised.fresh (drawable_of_widths widths narrow) (sink ▸ works)
        (promised.source.symm ▸ ends)
    rw [promised.source] at nextSource nextBars prints
    have gave : source.HasGiven m next.source := nextSource ▸ source.hasGiven_afterAll steps
    have le : m ≤ n := (gave.remaining left).2
    have counts := promised.bars_advance le
    rw [← show next.bars = nest.bars.map (·.advance m) from nextBars] at counts
    obtain ⟨hint, length, fixedLength⟩ := step_sizes own left gave after
    refine ⟨answers, next, after, walked, gave, le, hint, length, fixedLength, ?_, counts,
      sink ▸ prints.taken, promised.drawnLine_advance, fun all later => ?_⟩
    · have number := congrArg List.length widths
      rw [List.length_map, List.length_reverse, List.length_map] at number
      rw [nextBars, List.length_map, number]
    · have complete : ∀ bar ∈ next.bars, bar.isComplete = true :=
        fun bar mem => (counts bar mem).2.2.mpr all
      exact ⟨close_of_isComplete complete later, leave_of_isComplete complete later⟩
  · obtain ⟨error, after, refused, sink⟩ :=
      meteredBySizes_of_not_isTotal own left total console inside
    rw [show made = _ from refused]
    refine ⟨⟨?_, fun h => absurd h total⟩, sink, ?_⟩
    · rintro ⟨nest, ok⟩
      cases ok
    · intro nest ok
      cases ok

/-- Three items in two meters, pulled from both ends with a close between: what is written behind
the close are the lines of the second item and those of the last, and leaving adds nothing. -/
theorem meteredBySizes_promise_two_meters :
    let source : Source := .items [7, 8, 9] none none
    let layers : List (Char × UInt64) := [('#', 1), ('*', 2)]
    let steps : List Step := [.traverse (.next .back), .close, .traverse (.take .front 5)]
    source.HintsExactly ∧ source.remaining = some 3 ∧ layers ≠ [] ∧
      (∀ layer ∈ layers, TrackFits layer.2) ∧ Sink.unlimited.Works ∧
      .traverse (.stepBy 0) ∉ steps ∧
      ∃ nest, ((bare source).meteredBySizes {} layers).1 = .ok nest ∧
        ∃ answers next after, nest.takeSteps ((bare source).meteredBySizes {} layers).2 steps =
            (.ok answers, next, after) ∧
          (next.step .length after).1 = .ok (.length 0) ∧
          (∀ bar ∈ next.bars, bar.isComplete = true) ∧
          after.sink.taken =
            "[ ]  \r[  ]  \r\n[ ]  \r[* ]  \r[#]  \n[**]  \n".toUTF8 ∧
          next.leave after = after := by
  intro source layers steps
  have inside : layers ≠ [] := List.cons_ne_nil _ _
  have narrow : ∀ layer ∈ layers, TrackFits layer.2 := by decide
  have moves : .traverse (.stepBy 0) ∉ steps := by decide
  obtain ⟨made, -, follows⟩ := meteredBySizes_promise source rfl 3 rfl layers inside {}
  obtain ⟨nest, ok⟩ := made.mpr (by decide)
  obtain ⟨-, follows⟩ := follows nest ok
  obtain ⟨answers, next, after, walked, -, -, -, length, -, -, counts, written, -, silent⟩ :=
    follows narrow Sink.works_unlimited steps moves
  have signals : source.signals steps = [.item, .close, .item, .item] := by decide
  rw [signals] at length counts written silent
  have text : transcript nest.bars [] [.item, .close, .item, .item] =
      "[ ]  \r[  ]  \r\n[ ]  \r[* ]  \r[#]  \n[**]  \n" := by
    cases ok
    decide +kernel
  refine ⟨rfl, rfl, inside, narrow, Sink.works_unlimited, moves, nest, ok, answers, next, after,
    walked, length rfl, fun bar mem => (counts bar mem).2.2.mpr rfl, ?_, (silent rfl after).2⟩
  rw [written, text]
  exact ByteArray.empty_append

end Nest

end ProgressBar.Iteration
