import ProgressBar.Proofs.Printing

/-!
# Writing to a sink that refuses

A sink **refuses** when it has no room at all: it takes nothing, and every write of a text fails
with the same fault. The other sinks a program meets work, so the **condition** of a sink is told by
the fault of its writes, if they fail (`Sink.Behaves`).

**The law** (`Bar.draw_traces`): in either condition a draw reports its line before anything else,
then makes its writes, and its result is the condition of the sink. A draw always has something to
write, if only the end of its line, so no draw on a refusing sink goes unnoticed.

What an operation does in a condition is told by what it asks of the console, in the order in which
it asks it (`Console.Traces`). A sink that works is asked for every write and then for a flush; one
that refuses is asked for no more behind the first text that is not empty.

**What it does not establish.** A sink that takes some bytes and then no more is in neither
condition.
-/

namespace ProgressBar

/-- **A sink that refuses** every text, with the same fault. -/
structure Sink.Refuses (sink : Sink) (fault : Fault) : Prop where
  full : sink.room = some 0
  refusal : sink.refusal = fault

/-- **The condition of a sink**: it works, or it refuses with a fault. -/
def Sink.Behaves (sink : Sink) : Option Fault → Prop
  | none => sink.Works
  | some fault => sink.Refuses fault

/-- What a write comes to in a condition. -/
def writeResult : Option Fault → Except Fault Unit
  | none => .ok ()
  | some fault => .error fault

namespace Sink

variable {sink : Sink} {fault : Fault}

theorem refuses_failing (fault : Fault) : (failing fault).Refuses fault := ⟨rfl, rfl⟩

/-- **A refusing sink stays as it is** when it is written to. Only a text of nothing is no reason to
fail. -/
theorem write_of_refuses (refuses : sink.Refuses fault) (text : String) :
    sink.write text = (if text = "" then .ok () else .error fault, sink) := by
  obtain ⟨full, refusal⟩ := refuses
  obtain ⟨taken, room, refusal', flushFault, flushes⟩ := sink
  cases full
  cases refusal
  rw [write, writeBytes]
  by_cases empty : text = ""
  · subst empty
    simp
  · have nonempty : ¬ text.toUTF8.size ≤ 0 := by simpa [String.utf8ByteSize_eq_zero_iff] using empty
    dsimp only
    rw [if_neg nonempty, if_neg empty]
    simp

end Sink

namespace Console

/-- **The writes that are tried** on a sink that refuses: no more behind the first that has
something to write. -/
def attempts : List String → List Request
  | [] => []
  | text :: rest => .write text :: if text = "" then attempts rest else []

/-- **What is asked when texts are written** in a condition of the sink: all of them and a flush, or
only what is tried. -/
def writeRequests (condition : Option Fault) (texts : List String) : List Request :=
  if condition = none then deliveries texts else attempts texts

/-- Writes and flushes are no reports. -/
theorem events_writeRequests (condition : Option Fault) (texts : List String) :
    (writeRequests condition texts).filterMap Request.event? = [] := by
  rw [writeRequests, List.filterMap_eq_nil_iff]
  split
  · intro request among
    rcases List.mem_append.mp among with write | flush
    · obtain ⟨text, -, rfl⟩ := List.mem_map.mp write
      rfl
    · rw [List.mem_singleton.mp flush]
      rfl
  · induction texts with
    | nil => exact nofun
    | cons text rest ih =>
      intro request among
      rcases List.mem_cons.mp among with rfl | behind
      · rfl
      · split at behind
        · exact ih request behind
        · cases behind

/-- **What was asked** from one console to a later one, while the sink stayed in its condition: a
refusing sink has not changed at all. -/
structure Traces (condition : Option Fault) (before : Console) (requests : List Request)
    (after : Console) : Prop where
  behaves : after.sink.Behaves condition
  kept : condition ≠ none → after.sink = before.sink
  asked : after.asked.toList = before.asked.toList ++ requests

section Traces

variable {condition : Option Fault} {before middle after : Console} {first second : List Request}

/-- An operation that asks for nothing leaves the console in its condition. -/
theorem Traces.refl (behaves : before.sink.Behaves condition) :
    before.Traces condition [] before :=
  ⟨behaves, fun _ => rfl, (List.append_nil _).symm⟩

/-- **What is asked in a row is asked together**, as long as the condition of the sink stays the
same in between. -/
theorem Traces.trans (traces : before.Traces condition first middle)
    (more : middle.Traces condition second after) :
    before.Traces condition (first ++ second) after := by
  refine ⟨more.behaves, fun failing => (more.kept failing).trans (traces.kept failing), ?_⟩
  rw [more.asked, traces.asked, List.append_assoc]

/-- A report asks for itself and does not touch the sink, whatever its condition. -/
theorem report_traces (behaves : before.sink.Behaves condition) (event : Log.Event) :
    before.Traces condition [.report event] (before.report event) :=
  ⟨behaves, fun _ => rfl, before.asked_report event⟩

/-- On a sink that works every write is made, and the flush behind them. -/
theorem write_traces_of_works {texts : List String} (works : before.sink.Works) :
    ∃ after, before.write texts = (.ok (), after) ∧
      before.Traces none (deliveries texts) after := by
  have failing : ∀ {P : Prop}, (none : Option Fault) ≠ none → P := fun other => absurd rfl other
  induction texts generalizing before with
  | nil =>
    obtain ⟨after, flushed, prints⟩ := serve_flush_of_works works
    refine ⟨after, serveAll_cons_of_ok flushed, prints.works, failing, ?_⟩
    have asked := before.asked_serve .flush
    rwa [flushed] at asked
  | cons text rest ih =>
    obtain ⟨middle, written, prints⟩ := serve_write_of_works works text
    obtain ⟨after, writtenRest, traces⟩ := ih prints.works
    refine ⟨after, (serveAll_cons_of_ok written).trans writtenRest, traces.behaves, failing, ?_⟩
    have asked := before.asked_serve (.write text)
    rw [written] at asked
    rw [traces.asked, asked, List.append_assoc]
    rfl

/-- **A sink that refuses ends a write** at the first text that is not empty, and is not asked for a
flush. -/
theorem write_traces_of_refuses {texts : List String} {fault : Fault}
    (something : String.join texts ≠ "") (refuses : before.sink.Refuses fault) :
    ∃ after, before.write texts = (.error fault, after) ∧
      before.Traces (some fault) (attempts texts) after := by
  induction texts generalizing before with
  | nil => exact absurd String.join_nil something
  | cons text rest ih =>
    have asked := before.asked_serve (.write text)
    have refused := Sink.write_of_refuses refuses text
    rw [attempts]
    by_cases empty : text = ""
    · rw [if_pos empty] at refused ⊢
      rw [String.join_cons, empty, String.empty_append] at something
      have served : before.serve (.write text) =
          (.ok (), { before with asked := before.asked.push (.write text) }) := by
        rw [serve, refused]
      rw [served] at asked
      have stays : ({ before with asked := before.asked.push (.write text) } : Console).sink.Refuses
          fault := refuses
      obtain ⟨after, written, traces⟩ := ih something stays
      refine ⟨after, (serveAll_cons_of_ok served).trans written, traces.behaves, traces.kept, ?_⟩
      rw [traces.asked, asked, List.append_assoc]
      rfl
    · rw [if_neg empty] at refused ⊢
      have served : before.serve (.write text) =
          (.error fault, { before with asked := before.asked.push (.write text) }) := by
        rw [serve, refused]
      rw [served] at asked
      exact ⟨_, serveAll_cons_of_error served, refuses, fun _ => rfl, asked⟩

/-- **A write comes to the condition of the sink**, by the requests that belong to it. -/
theorem write_traces {texts : List String} (something : String.join texts ≠ "")
    (behaves : before.sink.Behaves condition) :
    ∃ after, before.write texts = (writeResult condition, after) ∧
      before.Traces condition (writeRequests condition texts) after := by
  cases condition with
  | none => exact write_traces_of_works behaves
  | some fault => exact write_traces_of_refuses something behaves

end Traces

end Console

namespace Bar

/-- What a draw comes to in a condition of the sink. -/
def drawResult (condition : Option Fault) : Except DrawError Unit :=
  (writeResult condition).mapError .sink

/-- There is always something to write for a draw, since a line that is empty still has its end. So
a sink that fails is noticed by the first draw. -/
theorem frame_ne_empty (bar : Bar) : String.join [bar.line, bar.terminator] ≠ "" := by
  rw [join_line_terminator, drawnLine]
  intro empty
  have last := (String.append_eq_empty_iff.mp empty).2
  split at last <;> simp at last

/-- **A draw reports the line, writes, and comes to the condition of the sink.** -/
theorem draw_traces (bar : Bar) {condition : Option Fault} {console : Console}
    (drawable : bar.Drawable) (behaves : console.sink.Behaves condition) :
    ∃ after, bar.draw console = (drawResult condition, after) ∧
      console.Traces condition
        (.report (.drawing bar.line) ::
          Console.writeRequests condition [bar.line, bar.terminator]) after := by
  have laidOut : bar.line? = some bar.line := line?_eq_some_iff.mpr ⟨drawable, rfl⟩
  have reported := console.report_traces behaves (.drawing bar.line)
  obtain ⟨after, written, traces⟩ := Console.write_traces bar.frame_ne_empty reported.behaves
  refine ⟨after, ?_, reported.trans traces⟩
  rw [draw, laidOut]
  simp only [written]
  cases condition <;> rfl

end Bar

end ProgressBar
