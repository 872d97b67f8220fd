import ProgressBar.Proofs.Iteration.Answers
import ProgressBar.Proofs.Iteration.Transcript
import ProgressBar.Proofs.Program.Output

/-!
# A run as an iteration

The program draws its bar once and then follows the records of its input; a meter follows the items
of a source. The two are written apart: the program asks only once, when its input is over, whether
the line is to be ended, and a meter remembers whether it has drawn.

**The law** (`run_as_iteration`): the output of a run is the bar drawn once, and behind it all that
a meter with the same bar writes while a source of as many items is used up and left. Only without
any records the two part: the program ends the line it has drawn, and the meter, which has drawn
none, writes nothing.

The number of records is not bounded. Beyond the greatest progress both go on with the least.
-/

namespace ProgressBar

namespace Iteration

/-! ## Items alone -/

theorem close_not_mem_signals {source : Source} {steps : List Step} (quiet : .close ∉ steps) :
    .close ∉ source.signals steps := by
  induction steps generalizing source with
  | nil => exact List.not_mem_nil
  | cons step rest ih =>
    rw [List.mem_cons, not_or] at quiet
    rw [Source.signals, List.mem_append, not_or]
    refine ⟨?_, ih quiet.2⟩
    cases step with
    | close => exact absurd rfl quiet.1
    | traverse traversal => exact fun mem => Signal.noConfusion (List.eq_of_mem_replicate mem)
    | sizeHint | length | bar => exact List.not_mem_nil

/-- **Steps without a close send nothing but items**, so all there is to know of them is how many.
-/
theorem signals_of_quiet {source : Source} {steps : List Step} (quiet : .close ∉ steps) :
    source.signals steps = List.replicate ((source.signals steps).count .item) .item := by
  have items : ∀ signal ∈ source.signals steps, signal = .item := by
    intro signal mem
    cases signal with
    | item => rfl
    | close => exact absurd mem (close_not_mem_signals quiet)
  rw [List.count_eq_length.mpr fun signal mem => (items signal mem).symm]
  exact List.eq_replicate_of_mem items

section Alone

variable (bar : Bar)

/-- **A meter alone draws line after line** as items come, each one step further than the one
before. -/
theorem transcript_replicate (before n : Nat) :
    transcript [bar] (List.replicate before .item) (List.replicate n .item) =
      bar.draws (before + 1) n := by
  induction n generalizing before with
  | zero => rfl
  | succ n ih =>
    have longer : List.replicate before Signal.item ++ [.item] =
        List.replicate (before + 1) .item := List.replicate_succ'.symm
    have own : response [bar] (List.replicate before .item) .item = bar.draws (before + 1) 1 := by
      rw [Bar.draws_one, response, List.count_replicate_self]
      simp
    rw [List.replicate_succ, transcript, longer, ih, own, Bar.draws_append, Nat.add_comm n 1]

/-- **A meter that was never closed ends its line when it is left**, if it has drawn one and its bar
is unfinished. -/
theorem farewell_replicate (n : Nat) :
    farewell [bar] (List.replicate n .item) =
      if n ≠ 0 ∧ (bar.advance n).current < bar.total then "\n" else "" := by
  have since : sinceClose (List.replicate n .item) = List.replicate n .item := by
    simp [sinceClose]
  rw [farewell, List.map_nil, String.join_nil, String.append_empty, closing, since,
    List.count_replicate_self]
  simp only [List.mem_replicate, and_true]

end Alone

/-- **What a fresh meter writes** while a source is used up without a close, and then left. -/
theorem Nest.takeSteps_quiet {source : Source} {n : Nat} (left : source.remaining = some n)
    {bar : Bar} (drawable : bar.Drawable) {console : Console} (works : console.sink.Works)
    {steps : List Step} (quiet : .close ∉ steps) (moves : .traverse (.stepBy 0) ∉ steps) :
    ∃ answers next after,
      ((bare source).meteredBy bar).takeSteps console steps = (.ok answers, next, after) ∧
        (next.source.remaining = some 0 →
          console.Prints (bar.draws 1 n ++
            if n ≠ 0 ∧ (bar.advance n).current < bar.total then "\n" else "")
            (next.leave after)) := by
  obtain ⟨bareAnswers, ends⟩ := Source.takeSteps_ok left moves
  have nestDrawable : ((bare source).meteredBy bar).Drawable :=
    List.forall_mem_cons.mpr ⟨drawable, List.forall_mem_nil _⟩
  obtain ⟨answers, next, after, walked, nextSource, -, prints, leaves⟩ :=
    takeSteps_prints (fresh_meteredBy (fresh_bare source) bar) nestDrawable works ends
  refine ⟨answers, next, after, walked, fun consumed => ?_⟩
  -- with nothing left of the source, as many items have come as there were
  have gave := source.hasGiven_afterAll steps
  rw [show source.afterAll steps = next.source from nextSource.symm] at gave
  obtain ⟨leftThen, le⟩ := gave.remaining left
  have all : (source.signals steps).count .item = n := by
    rw [consumed, Option.some.injEq] at leftThen
    omega
  have signals : source.signals steps = List.replicate n .item := all ▸ signals_of_quiet quiet
  have lines := transcript_replicate bar 0 n
  have written := prints.trans leaves
  change console.Prints (transcript [bar] [] (source.signals steps) ++
    farewell [bar] (source.signals steps)) _ at written
  rw [List.replicate_zero, Nat.zero_add] at lines
  rwa [signals, lines, farewell_replicate] at written

end Iteration

namespace Program

open Iteration

/-- **A run writes what an iteration writes.** Take a command line that was understood, with an
ASCII delimiter, a positive total and a track that can be laid out, an output that works, and any
bytes. Put a meter with the bar that is asked for around a source of as many items as there are
records, and take any steps from it but closes and those that stride by zero. Once they have used
the source up, the output of the run is the bar drawn once, and behind it all that the meter has
written when the nest is left. If there are no records, the output is the bar drawn once and a line
feed, and the meter writes nothing. -/
theorem run_as_iteration (arguments : List String) (settings : CommandLine.Settings)
    (read : CommandLine.read arguments = .ok settings) (ascii : settings.delimiter.toNat < 0x80)
    (positive : 0 < settings.total) (narrow : TrackFits settings.width) (stdout : Sink)
    (works : stdout.Works) (bytes : List UInt8) (source : Source)
    (left : source.remaining = some (recordCount settings.delimiter.toUInt8 bytes))
    (steps : List Step) (quiet : .close ∉ steps) (moves : .traverse (.stepBy 0) ∉ steps) :
    let bar := settings.bar positive
    let records := recordCount settings.delimiter.toUInt8 bytes
    let outcome := run arguments (.bytes bytes) stdout
    let drawn := (bar.draw {}).2.sink.taken
    let walked := ((Nest.bare source).meteredBy bar).takeSteps {} steps
    let iterated := (walked.2.1.leave walked.2.2).sink.taken
    (settings.build { sink := stdout }).1 = .ok bar ∧ (∃ answers, walked.1 = .ok answers) ∧
      (walked.2.1.source.remaining = some 0 →
        (records ≠ 0 → outcome.stdout = stdout.taken ++ (drawn ++ iterated)) ∧
        (records = 0 → outcome.stdout = stdout.taken ++ (drawn ++ "\n".toUTF8) ∧
          iterated = .empty)) := by
  intro bar records outcome drawn walked iterated
  have drawable : bar.Drawable := narrow
  have ready : ({} : Console).sink.Works := Sink.works_unlimited
  obtain ⟨displayed, draws, printsOnce⟩ := bar.draw_of_works drawable ready
  obtain ⟨answers, next, after, walks, prints⟩ :=
    Nest.takeSteps_quiet left drawable ready quiet moves
  have once : drawn = (bar.draws 0 1).toUTF8 := by
    rw [show drawn = _ from congrArg (·.2.sink.taken) draws, printsOnce.taken, Bar.draws_one,
      Bar.advance_zero]
    exact ByteArray.empty_append
  refine ⟨by rw [settings.build_eq positive], ⟨answers, congrArg Prod.fst walks⟩, ?_⟩
  intro consumed
  rw [show walked = _ from walks] at consumed
  have rest : iterated = (bar.draws 1 records ++
      if records ≠ 0 ∧ (bar.advance records).current < bar.total then "\n" else "").toUTF8 := by
    rw [show iterated = _ from congrArg (fun walked => (walked.2.1.leave walked.2.2).sink.taken)
      walks, (prints consumed).taken]
    exact ByteArray.empty_append
  have own : outcome.stdout = stdout.taken ++ (bar.draws 0 (records + 1) ++
      if (bar.advance records).current < bar.total then "\n" else "").toUTF8 :=
    congrArg Outcome.stdout (run_draws read ascii positive narrow works bytes)
  constructor
  · intro anyRecord
    have whole : bar.draws 0 1 ++ bar.draws 1 records = bar.draws 0 (records + 1) := by
      rw [Nat.add_comm]
      exact bar.draws_append 0 1 records
    simp only [ne_eq, anyRecord, not_false_eq_true, true_and] at rest
    rw [own, once, rest, ← whole, String.append_assoc]
    rfl
  · intro noRecord
    have below : (bar.advance 0).current < bar.total := by
      rw [Bar.advance_zero]
      exact positive
    rw [noRecord] at own rest
    rw [if_pos below] at own
    refine ⟨by rw [own, once]; rfl, ?_⟩
    rw [rest, Bar.draws_zero, if_neg fun h => h.1 rfl]
    rfl

/-- Three records, and an interval of three items taken from both ends, with a total of two. -/
theorem run_as_iteration_three_records :
    let arguments := ["--total=2", "--width=2", "--template=\x7bbar\x7d"]
    let settings : CommandLine.Settings := { total := 2, width := 2, template := "\x7bbar\x7d" }
    let bytes : List UInt8 := [97, 10, 10, 98]
    let source : Source := .interval 5 8
    let steps : List Step := [.traverse (.next .back), .traverse (.drain .front)]
    CommandLine.read arguments = .ok settings ∧ settings.delimiter.toNat < 0x80 ∧
      TrackFits settings.width ∧ Sink.unlimited.Works ∧
      source.remaining = some (recordCount settings.delimiter.toUInt8 bytes) ∧
      .close ∉ steps ∧ .traverse (.stepBy 0) ∉ steps ∧
      ∃ positive : 0 < settings.total,
        let walked := ((Nest.bare source).meteredBy (settings.bar positive)).takeSteps {} steps
        walked.2.1.source.remaining = some 0 ∧
          (run arguments (.bytes bytes) .unlimited).stdout =
            ((settings.bar positive).draw {}).2.sink.taken ++
              (walked.2.1.leave walked.2.2).sink.taken := by
  intro arguments settings bytes source steps
  have read : CommandLine.read arguments = .ok settings := rfl
  have ascii : settings.delimiter.toNat < 0x80 := by decide
  have positive : 0 < settings.total := by decide
  have narrow : TrackFits settings.width := by decide
  have three : recordCount settings.delimiter.toUInt8 bytes = 3 := by decide
  have left : source.remaining = some (recordCount settings.delimiter.toUInt8 bytes) := by
    rw [three]
    decide
  have quiet : .close ∉ steps := by decide
  have moves : .traverse (.stepBy 0) ∉ steps := by decide
  obtain ⟨-, -, follows⟩ := run_as_iteration arguments settings read ascii positive narrow
    Sink.unlimited Sink.works_unlimited bytes source left steps quiet moves
  have consumed : (((Nest.bare source).meteredBy (settings.bar positive)).takeSteps {}
      steps).2.1.source.remaining = some 0 := rfl
  obtain ⟨behind, -⟩ := follows consumed
  exact ⟨read, ascii, narrow, Sink.works_unlimited, left, quiet, moves, positive, consumed,
    (behind (by rw [three]; decide)).trans ByteArray.empty_append⟩

end Program

end ProgressBar
