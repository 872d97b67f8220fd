import ProgressBar.Bar.Draw
import ProgressBar.Proofs.Bar.Share

/-!
# Printing on a sink that works

A sink **works** when it has room for every byte and no flush of it fails. On such a sink nothing
that writes can go wrong, so an operation is told by the text it prints: `Console.Prints` relates
the console before to the console after by that text, and texts of operations in a row are joined.

**The law** (`Bar.draw_of_works`): a drawable bar prints its line, ended as its progress asks for.

**What it does not establish.** What is logged is left out, and in which order; and so is what a
sink that fails takes.
-/

namespace ProgressBar

/-- **A sink that works**: it takes everything, and a flush of it succeeds. -/
structure Sink.Works (sink : Sink) : Prop where
  roomy : sink.room = none
  flushable : sink.flushFault = none

namespace Sink

theorem works_unlimited : unlimited.Works := ⟨rfl, rfl⟩

end Sink

namespace Console

/-- **What was printed** from one console to a later one: the sink still works, and has taken the
text behind everything it had before. -/
structure Prints (before : Console) (text : String) (after : Console) : Prop where
  works : after.sink.Works
  taken : after.sink.taken = before.sink.taken ++ text.toUTF8

variable {before middle after : Console} {first second : String}

theorem Prints.refl (works : before.sink.Works) : before.Prints "" before :=
  ⟨works, (ByteArray.append_empty).symm⟩

/-- **What is printed in a row is printed together**, and a flush between the two prints nothing. -/
theorem Prints.trans (prints : before.Prints first middle) (more : middle.Prints second after) :
    before.Prints (first ++ second) after := by
  refine ⟨more.works, ?_⟩
  rw [more.taken, prints.taken, ByteArray.append_assoc]
  rfl

/-- **Only one text leads from a console to a later one**, since texts with the same bytes are the
same. -/
theorem Prints.text_eq (prints : before.Prints first after) (again : before.Prints second after) :
    first = second := by
  have taken : before.sink.taken ++ first.toUTF8 = before.sink.taken ++ second.toUTF8 :=
    prints.taken.symm.trans again.taken
  exact String.toByteArray_inj.mp ((ByteArray.append_right_inj _).mp taken)

/-- A text written to a working sink is printed. -/
theorem serve_write_of_works (works : before.sink.Works) (text : String) :
    ∃ after, before.serve (.write text) = (.ok (), after) ∧ before.Prints text after := by
  have written := Sink.write_of_room_none works.roomy text
  refine ⟨(before.serve (.write text)).2, ?_, ?_⟩
  · rw [serve, written]
  · rw [serve, written]
    exact ⟨⟨works.roomy, works.flushable⟩, rfl⟩

/-- A flush of a working sink succeeds and prints nothing. -/
theorem serve_flush_of_works (works : before.sink.Works) :
    ∃ after, before.serve .flush = (.ok (), after) ∧ before.Prints "" after := by
  have flushed : before.sink.flush =
      (.ok (), { before.sink with flushes := before.sink.flushes + 1 }) := by
    simp only [Sink.flush, works.flushable]
  refine ⟨(before.serve .flush).2, ?_, ?_⟩
  · rw [serve, flushed]
  · rw [serve, flushed]
    exact ⟨⟨works.roomy, works.flushable⟩, (ByteArray.append_empty).symm⟩

/-- **Texts written to a working sink are printed**, one behind the other, and the flush behind them
succeeds. -/
theorem write_of_works (texts : List String) (works : before.sink.Works) :
    ∃ after, before.write texts = (.ok (), after) ∧ before.Prints (String.join texts) after := by
  induction texts generalizing before with
  | nil =>
    obtain ⟨after, flushed, prints⟩ := serve_flush_of_works works
    exact ⟨after, serveAll_cons_of_ok flushed, prints⟩
  | cons text rest ih =>
    obtain ⟨middle, written, prints⟩ := serve_write_of_works works text
    obtain ⟨after, writtenRest, printsRest⟩ := ih prints.works
    refine ⟨after, (serveAll_cons_of_ok written).trans writtenRest, ?_⟩
    rw [String.join_cons]
    exact prints.trans printsRest

end Console

namespace Bar

/-- **A line as it is drawn**: left behind once the progress has reached the total, and to be drawn
over before that. -/
def drawnLine (bar : Bar) : String := bar.line ++ if bar.total ≤ bar.current then "\n" else "\r"

/-- A line is drawn as two texts, the line itself and its end. -/
theorem join_line_terminator (bar : Bar) :
    String.join [bar.line, bar.terminator] = bar.drawnLine := by
  rw [String.join_cons, String.join_cons, String.join_nil, String.append_empty, terminator_eq,
    drawnLine]

/-- **A draw finds the track too wide exactly when it is**, whatever it is drawn on. -/
theorem draw_eq_trackTooWide_iff {bar : Bar} {console : Console} :
    (bar.draw console).1 = .error .trackTooWide ↔ ¬ bar.Drawable := by
  unfold draw
  cases laidOut : bar.line? with
  | none =>
    refine iff_of_true rfl fun drawable => ?_
    rw [line?, if_pos drawable] at laidOut
    cases laidOut
  | some line =>
    have drawable : bar.Drawable := (line?_eq_some_iff.mp laidOut).1
    refine iff_of_false ?_ (not_not_intro drawable)
    dsimp only
    split <;> simp only [reduceCtorEq, Except.error.injEq, not_false_eq_true]

/-- **A draw on a working sink** prints the line as it is drawn: one report, two writes and a flush,
of which only the writes are to be seen. -/
theorem draw_of_works (bar : Bar) {console : Console} (drawable : bar.Drawable)
    (works : console.sink.Works) :
    ∃ after, bar.draw console = (.ok (), after) ∧ console.Prints bar.drawnLine after := by
  have laidOut : bar.line? = some bar.line := line?_eq_some_iff.mpr ⟨drawable, rfl⟩
  obtain ⟨after, written, prints⟩ := (console.report (.drawing bar.line)).write_of_works
    [bar.line, bar.terminator] works
  refine ⟨after, ?_, prints.works, ?_⟩
  · rw [draw, laidOut]
    simp only [written]
  · rw [prints.taken, join_line_terminator, Console.sink_report]

end Bar

end ProgressBar
