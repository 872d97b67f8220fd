import ProgressBar.Proofs.Iteration.Acts

/-!
# Failing draws do not hold up the items

The same steps taken with a nest on two consoles, one that works and one whose sink refuses
everything.

**The law** (`Nest.takeSteps_refusing`): both runs come to the same answers and leave the same nest,
and they do the same acts. Where an act of the one shows in its output, the same act of the other
shows as a line of its log that says what failed and why, once and directly behind what was logged
before it. An act that failed is over: a line that could not be ended is not ended later, unless its
meter draws again.

The log is told in the words a reader of it sees; and what both consoles were asked is told whole,
so that of every line of the log it is known between which writes it was reported.

That the nest does not depend on the console at all, whatever becomes of what is written there, is a
fact of its own (`Nest.takeSteps_alike`); it needs no hypothesis.

**What it does not establish.** A sink that fails only now and then leaves a log between the two.
-/

namespace ProgressBar.Iteration.Nest

/-! ## What does not depend on the console -/

section Alike

variable {α : Type}

/-- **Two outcomes that are alike**: the same result and the same nest, on consoles of their own. -/
def Alike (first second : Except Halt α × Nest × Console) : Prop :=
  first.1 = second.1 ∧ first.2.1 = second.2.1

/-- Two results that are alike, taken apart at once: the same answer and the same nest, on two
consoles. -/
theorem Alike.exists_eq {first second : Except Halt α × Nest × Console}
    (alike : Alike first second) : ∃ result nest firstThen secondThen,
      first = (result, nest, firstThen) ∧ second = (result, nest, secondThen) :=
  ⟨first.1, first.2.1, first.2.2, second.2.2, rfl, by rw [alike.1, alike.2]⟩

variable (console other : Console)

/-- What comes of a pull does not depend on the console, since a meter goes on whether or not its
line was drawn. -/
theorem pull_alike (side : Side) (nest : Nest) :
    Alike (nest.pull side console) (nest.pull side other) := by
  induction nest with
  | bare source => exact ⟨rfl, rfl⟩
  | metered meter inner ih =>
    obtain ⟨result, inner', firstThen, secondThen, first, second⟩ := ih.exists_eq
    rw [pull, pull, first, second]
    cases result with
    | error reason => exact ⟨rfl, rfl⟩
    | ok item =>
      cases item with
      | none => exact ⟨rfl, rfl⟩
      | some item =>
        constructor
        · simp only [Meter.advance_result]
        · simp only [Meter.advance_meter]

/-- So a whole walk comes to the same on two consoles. The induction is on the walk, over any nest.
-/
theorem run_alike (walk : Walk α) (nest : Nest) :
    Alike (nest.run walk console) (nest.run walk other) := by
  induction walk generalizing nest console other with
  | done result => exact ⟨rfl, rfl⟩
  | halt reason => exact ⟨rfl, rfl⟩
  | pull side next ih =>
    obtain ⟨result, nest', firstThen, secondThen, first, second⟩ :=
      (pull_alike console other side nest).exists_eq
    rw [run_pull, run_pull, first, second]
    cases result with
    | error reason => exact ⟨rfl, rfl⟩
    | ok item => exact ih item firstThen secondThen nest'

theorem close_alike (nest : Nest) : (nest.close console).1 = (nest.close other).1 := by
  cases nest with
  | bare source => rfl
  | metered meter inner => simp only [close, Meter.close_meter]

/-- Every step comes to the same answer and the same nest on two consoles, whatever is written on
them. -/
theorem step_alike (nest : Nest) (step : Step) :
    Alike (nest.step step console) (nest.step step other) := by
  cases step with
  | traverse traversal =>
    obtain ⟨result, nests⟩ := run_alike console other (traversal.walk nest.source) nest
    exact ⟨congrArg (Except.map Answer.yield) result, nests⟩
  | sizeHint => exact ⟨rfl, rfl⟩
  | length => exact ⟨rfl, rfl⟩
  | close => exact ⟨rfl, close_alike console other nest⟩
  | bar => exact ⟨rfl, rfl⟩

/-- **Answers and nest do not depend on the console**, step by step; so a run on a sink that refuses
can be told from one on a sink that works. -/
theorem takeSteps_alike (nest : Nest) (steps : List Step) :
    Alike (nest.takeSteps console steps) (nest.takeSteps other steps) := by
  induction steps generalizing nest console other with
  | nil => exact ⟨rfl, rfl⟩
  | cons step rest ih =>
    obtain ⟨result, nest', firstThen, secondThen, first, second⟩ :=
      (step_alike console other nest step).exists_eq
    rw [takeSteps, takeSteps, first, second]
    cases result with
    | error reason => exact ⟨rfl, rfl⟩
    | ok answer =>
      obtain ⟨result, nests⟩ := ih firstThen secondThen nest'
      exact ⟨congrArg (Except.map (answer :: ·)) result, nests⟩

end Alike

/-! ## What is asked -/

/-- **A run with a fresh nest**, step by step and then left, asks a console for the acts that its
signals call for. -/
theorem takeSteps_traces {nest : Nest} (fresh : nest.Fresh) (drawable : nest.Drawable)
    (condition : Option Fault) {console : Console} (behaves : console.sink.Behaves condition)
    {steps : List Step} {answers : List Answer}
    (ends : ((bare nest.source).takeSteps {} steps).1 = .ok answers) :
    let signals := nest.source.signals steps
    ∃ own next after, nest.takeSteps console steps = (.ok own, next, after) ∧
      console.Traces condition (Act.requestsOfAll condition (acts nest.bars [] signals)) after ∧
      after.Traces condition (Act.requestsOfAll condition (farewellActs nest.bars signals))
        (next.leave after) := by
  intro signals
  obtain ⟨own, start, walked, -, -, stands, drawableThen⟩ :=
    takeSteps_of_fresh fresh drawable console ends
  obtain ⟨standsLast, traces⟩ := receiveAll_traces signals stands drawableThen behaves
  have leaves := leave_traces (start.receiveAll console signals).1 traces.behaves
  rw [standsLast, lastActs_metersAfter, List.nil_append] at leaves
  exact ⟨own, _, _, walked, traces, leaves⟩

/-- **A sink that refuses changes nothing but the output and the log.** Take a fresh nest whose
lines can all be laid out, a console that works and one whose sink refuses with a fault, and steps
that come to their answers on the bare source. Then both runs come to the same answers and leave the
same nest: its source, its bars, and which of its meters are open; and so do all first parts of the
steps. They do the same acts, in the steps and when the nest is left. On the one console the acts
are written, and the log gets a line for every draw, which quotes what is drawn; on the other
nothing is written, and the log gets the same lines, with one more directly behind each of them that
says that drawing failed, and one where the other run ends a line, that says that closing failed.
What else the consoles are asked stands between these reports as the acts have it: on the one, the
writes of an act and a flush; on the other, its writes up to the one that fails. A meter that was
closed has nothing more to do, on a later close or when the nest is left, before the next item. -/
theorem takeSteps_refusing (nest : Nest) (fresh : nest.Fresh) (drawable : nest.Drawable)
    (console other : Console) (fault : Fault) (works : console.sink.Works)
    (refuses : other.sink.Refuses fault) (steps : List Step) (answers : List Answer)
    (ends : ((bare nest.source).takeSteps {} steps).1 = .ok answers) :
    let signals := nest.source.signals steps
    let done := acts nest.bars [] signals
    let whole := done ++ farewellActs nest.bars signals
    let lines (console : Console) := console.log.toList.map Log.Event.text
    ∃ own next after failed,
      nest.takeSteps console steps = (.ok own, next, after) ∧
      nest.takeSteps other steps = (.ok own, next, failed) ∧
      (∀ first, first <+: steps →
        Alike (nest.takeSteps console first) (nest.takeSteps other first)) ∧
      after.sink.taken = console.sink.taken ++ (Act.textOfAll done).toUTF8 ∧
      after.asked.toList = console.asked.toList ++ Act.requestsOfAll none done ∧
      lines after = lines console ++ Act.linesOfAll none done ∧
      failed.sink = other.sink ∧
      failed.asked.toList = other.asked.toList ++ Act.requestsOfAll (some fault) done ∧
      lines failed = lines other ++ Act.linesOfAll (some fault) done ∧
      (next.leave after).sink.taken = console.sink.taken ++ (Act.textOfAll whole).toUTF8 ∧
      (next.leave after).asked.toList = console.asked.toList ++ Act.requestsOfAll none whole ∧
      lines (next.leave after) = lines console ++ Act.linesOfAll none whole ∧
      (next.leave failed).sink = other.sink ∧
      (next.leave failed).asked.toList =
        other.asked.toList ++ Act.requestsOfAll (some fault) whole ∧
      lines (next.leave failed) = lines other ++ Act.linesOfAll (some fault) whole ∧
      ∀ bar past more, .item ∉ more → closingActs bar (past ++ .close :: more) = [] := by
  intro signals done whole lines
  obtain ⟨own, next, after, walked, -, -, prints, leaves⟩ :=
    takeSteps_prints fresh drawable works ends
  obtain ⟨_, _, _, walked', traces, tracesLeaving⟩ :=
    takeSteps_traces fresh drawable none works ends
  rw [walked] at walked'
  cases walked'
  obtain ⟨_, _, failed, walkedOther, failures, failuresLeaving⟩ :=
    takeSteps_traces fresh drawable (some fault) refuses ends
  obtain ⟨sameAnswers, sameNest⟩ := takeSteps_alike console other nest steps
  rw [walked, walkedOther] at sameAnswers sameNest
  cases sameAnswers
  cases sameNest
  have text : transcript nest.bars [] signals = Act.textOfAll done := (textOfAll_acts _ _ _).symm
  have textWhole : transcript nest.bars [] signals ++ farewell nest.bars signals =
      Act.textOfAll whole := by
    rw [Act.textOfAll_append, textOfAll_acts, textOfAll_farewellActs]
  have written := (prints.trans leaves).taken
  have tracesWhole := traces.trans tracesLeaving
  have failuresWhole := failures.trans failuresLeaving
  rw [textWhole] at written
  rw [← Act.requestsOfAll_append] at tracesWhole failuresWhole
  have failing : some fault ≠ none := Option.some_ne_none fault
  have stepByStep (first : List Step) (_ : first <+: steps) :
      Alike (nest.takeSteps console first) (nest.takeSteps other first) :=
    takeSteps_alike console other nest first
  exact ⟨own, next, after, failed, walked, walkedOther, stepByStep, text ▸ prints.taken,
    traces.asked, Act.log_of_asked traces.asked, failures.kept failing, failures.asked,
    Act.log_of_asked failures.asked, written, tracesWhole.asked,
    Act.log_of_asked tracesWhole.asked, failuresWhole.kept failing, failuresWhole.asked,
    Act.log_of_asked failuresWhole.asked, fun bar past more noItem =>
      closingActs_of_closed bar past noItem⟩

/-- Two items in two meters, closed twice behind the first: the first close fails and the second has
nothing to do, and the inner meter fails to end its line when the nest is left. -/
theorem takeSteps_refusing_two_meters :
    let inner : Bar := ⟨'#', ('[', ']'), 1, 3, 0, false, false, "\x7bbar\x7d", by decide⟩
    let outer : Bar := { inner with total := 2, total_pos := by decide }
    let nest := ((bare (.items [7, 8, 9] none none)).meteredBy inner).meteredBy outer
    let steps : List Step := [.traverse (.next .back), .close, .close, .traverse (.next .front)]
    let other : Console := { sink := .failing .noSpace }
    let drawFailed := "DEBUG failed to draw progress bar: No space left on device (os error 28)"
    let closeFailed := "DEBUG failed to close progress bar: No space left on device (os error 28)"
    nest.Fresh ∧ nest.Drawable ∧ Sink.unlimited.Works ∧ other.sink.Refuses .noSpace ∧
      ((bare nest.source).takeSteps {} steps).1 =
        .ok [.yield (.item (some 9)), .closed, .closed, .yield (.item (some 7))] ∧
      ∃ own next after failed, nest.takeSteps {} steps = (.ok own, next, after) ∧
        nest.takeSteps other steps = (.ok own, next, failed) ∧
        (next.leave after).sink.taken = "[ ]\r[ ]\r\n[ ]\r[#]\n\n".toUTF8 ∧
        (next.leave after).log.toList.map Log.Event.text =
          ["TRACE drawing \"[ ]\"", "TRACE drawing \"[ ]\"", "TRACE drawing \"[ ]\"",
            "TRACE drawing \"[#]\""] ∧
        (next.leave failed).log.toList.map Log.Event.text =
          ["TRACE drawing \"[ ]\"", drawFailed, "TRACE drawing \"[ ]\"", drawFailed, closeFailed,
            "TRACE drawing \"[ ]\"", drawFailed, "TRACE drawing \"[#]\"", drawFailed,
            closeFailed] := by
  intro inner outer nest steps other drawFailed closeFailed
  have fresh : nest.Fresh := fresh_meteredBy (fresh_meteredBy (fresh_bare _) inner) outer
  have drawable : nest.Drawable := by decide
  have refuses : other.sink.Refuses .noSpace := Sink.refuses_failing .noSpace
  have ends : ((bare nest.source).takeSteps {} steps).1 =
      .ok [.yield (.item (some 9)), .closed, .closed, .yield (.item (some 7))] := rfl
  obtain ⟨own, next, after, failed, walked, walkedOther, -, -, -, -, -, -, -, written, -, logged, -,
    -, loggedFailed, -⟩ := takeSteps_refusing nest fresh drawable {} other .noSpace
      Sink.works_unlimited refuses steps _ ends
  have signals : nest.source.signals steps = [.item, .close, .close, .item] := by decide
  rw [signals] at written logged loggedFailed
  have text : Act.textOfAll (acts nest.bars [] [.item, .close, .close, .item] ++
      farewellActs nest.bars [.item, .close, .close, .item]) =
        "[ ]\r[ ]\r\n[ ]\r[#]\n\n" := by decide +kernel
  refine ⟨fresh, drawable, Sink.works_unlimited, refuses, ends, own, next, after, failed, walked,
    walkedOther, ?_, ?_, ?_⟩
  · rw [written, text]
    exact ByteArray.empty_append
  · refine logged.trans ?_
    decide +kernel
  · refine loggedFailed.trans ?_
    decide +kernel

end ProgressBar.Iteration.Nest
