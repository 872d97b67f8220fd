import ProgressBar.Proofs.Iteration.Transcript
import ProgressBar.Proofs.Refusing

/-!
# What the meters do

A meter does two things on a console: it draws its bar, and it ends a line. Which of them it does
and when is told by the signals that have reached it; how they turn out is told by the condition of
the sink, and shows in what the console is asked.

**The law** (`Nest.receiveAll_traces`): on signals, a console is asked for what belongs to the acts
that the signals call for, act by act. On a sink that works an act ends with a flush; on one that
refuses it ends with a report that it failed, directly behind the write that did. So the log, line
by line, is that of the acts (`Act.linesOfAll`), and on a sink that works the same acts make up what
is written (`textOfAll_acts`).
-/

namespace ProgressBar.Iteration

/-- **What a meter does on a console.** -/
inductive Act where
  /-- Draw the bar as it is then. -/
  | draw (bar : Bar)
  /-- End the line of an unfinished bar. -/
  | endLine
  deriving DecidableEq

namespace Act

/-- What an act writes, if it can. -/
def text : Act → String
  | draw bar => bar.drawnLine
  | endLine => "\n"

/-- **What an act asks of a console** in a condition of the sink: a draw reports its line first, and
an act that fails reports so behind the write that failed. -/
def requests (condition : Option Fault) : Act → List Request
  | draw bar =>
    .report (.drawing bar.line) ::
      (Console.writeRequests condition [bar.line, bar.terminator] ++
        condition.toList.map fun fault => .report (.drawFailed fault))
  | endLine =>
    Console.writeRequests condition ["\n"] ++
      condition.toList.map fun fault => .report (.closeFailed fault)

/-- **The lines an act leaves in the log**: a draw its line, in quotation marks, and in a condition
that makes it fail every act the fault. -/
def lines (condition : Option Fault) : Act → List String
  | draw bar =>
    ("TRACE drawing " ++ Text.quoted bar.line) ::
      condition.toList.map fun fault => "DEBUG failed to draw progress bar: " ++ fault.message
  | endLine =>
    condition.toList.map fun fault => "DEBUG failed to close progress bar: " ++ fault.message

/-- What acts write, one after the other. -/
def textOfAll (acts : List Act) : String := String.join (acts.map text)

/-- What acts ask of a console, one after the other. -/
def requestsOfAll (condition : Option Fault) (acts : List Act) : List Request :=
  acts.flatMap (requests condition)

/-- The lines acts leave in the log, one after the other. -/
def linesOfAll (condition : Option Fault) (acts : List Act) : List String :=
  acts.flatMap (lines condition)

theorem textOfAll_append (first second : List Act) :
    textOfAll (first ++ second) = textOfAll first ++ textOfAll second := by
  rw [textOfAll, List.map_append, String.join_append]
  rfl

/-- What acts in two parts ask for is what the first part asks for and then what the second does: no
act looks back at another, not even at one that failed. -/
theorem requestsOfAll_append (condition : Option Fault) (first second : List Act) :
    requestsOfAll condition (first ++ second) =
      requestsOfAll condition first ++ requestsOfAll condition second :=
  List.flatMap_append

/-- **Acts are logged line by line**: what is reported of their requests, put into words, are their
lines. Writes and flushes leave nothing in the log. -/
theorem lines_of_requests (condition : Option Fault) (acts : List Act) :
    ((requestsOfAll condition acts).filterMap Request.event?).map Log.Event.text =
      linesOfAll condition acts := by
  induction acts with
  | nil => rfl
  | cons act rest ih =>
    have own : ((act.requests condition).filterMap Request.event?).map Log.Event.text =
        act.lines condition := by
      cases act with
      | draw bar =>
        cases condition <;>
          simp [requests, lines, Console.events_writeRequests, Request.event?, Log.text_drawing,
            Log.text_drawFailed]
      | endLine =>
        cases condition <;>
          simp [requests, lines, Console.events_writeRequests, Request.event?,
            Log.text_closeFailed]
    rw [requestsOfAll, linesOfAll, List.flatMap_cons, List.flatMap_cons, List.filterMap_append,
      List.map_append, own]
    exact congrArg (_ ++ ·) ih

/-- **The log of a console that was asked for acts** has their lines behind all it had before. -/
theorem log_of_asked {condition : Option Fault} {acts : List Act} {before after : Console}
    (asked : after.asked.toList = before.asked.toList ++ requestsOfAll condition acts) :
    after.log.toList.map Log.Event.text =
      before.log.toList.map Log.Event.text ++ linesOfAll condition acts := by
  rw [Console.toList_log_of_asked asked, List.map_append, lines_of_requests]

end Act

/-! ## The acts that signals call for -/

/-- **What a meter does when it is closed** after the signals it has seen: it ends its line, if it
was drawn since it was last closed and its bar is below its total. -/
def closingActs (bar : Bar) (seen : List Signal) : List Act :=
  let current := (bar.advance (seen.count .item)).current
  if .item ∈ sinceClose seen ∧ current < bar.total then [.endLine] else []

/-- **What the meters around `bars` do on a signal**, after the signals of the past. -/
def responseActs (bars : List Bar) (past : List Signal) : Signal → List Act
  | .item => bars.reverse.map fun bar => .draw (bar.advance (past.count .item + 1))
  | .close =>
    match bars with
    | [] => []
    | outermost :: _ => closingActs outermost past

/-- **What the meters do** on signals that follow those of the past. -/
def acts (bars : List Bar) (past : List Signal) : List Signal → List Act
  | [] => []
  | signal :: rest => responseActs bars past signal ++ acts bars (past ++ [signal]) rest

/-- **What the meters do when the nest is left**, the outermost first. -/
def farewellActs (bars : List Bar) (past : List Signal) : List Act :=
  match bars with
  | [] => []
  | outermost :: inner =>
    closingActs outermost past ++ inner.flatMap fun bar => closingActs bar (seenInside past)

section Text

variable (bars : List Bar) (past : List Signal)

theorem textOfAll_closingActs (bar : Bar) (seen : List Signal) :
    Act.textOfAll (closingActs bar seen) = closing bar seen := by
  rw [closingActs, closing]
  split <;> rfl

/-- What is written in response to a signal, by the acts of the response. -/
theorem textOfAll_responseActs (signal : Signal) :
    Act.textOfAll (responseActs bars past signal) = response bars past signal := by
  cases signal with
  | item => simp only [responseActs, response, Act.textOfAll, List.map_map]; rfl
  | close =>
    cases bars with
    | nil => rfl
    | cons outermost inner => exact textOfAll_closingActs outermost past

/-- **The acts write the transcript**, so what works on a console that prints and what is asked of
any console have one source. -/
theorem textOfAll_acts (signals : List Signal) :
    Act.textOfAll (acts bars past signals) = transcript bars past signals := by
  induction signals generalizing past with
  | nil => rfl
  | cons signal rest ih =>
    rw [acts, transcript, Act.textOfAll_append, textOfAll_responseActs, ih]

theorem textOfAll_farewellActs :
    Act.textOfAll (farewellActs bars past) = farewell bars past := by
  cases bars with
  | nil => rfl
  | cons outermost inner =>
    rw [farewellActs, farewell, Act.textOfAll_append, textOfAll_closingActs]
    congr 1
    induction inner with
    | nil => rfl
    | cons bar rest ih =>
      rw [List.flatMap_cons, Act.textOfAll_append, textOfAll_closingActs, ih, List.map_cons,
        String.join_cons]

/-- **A close is done once**: with no item in between, a meter has nothing left to end. -/
theorem closingActs_of_closed (bar : Bar) (past : List Signal) {more : List Signal}
    (noItem : .item ∉ more) : closingActs bar (past ++ .close :: more) = [] := by
  refine if_neg fun h => noItem ?_
  have mem := h.1
  rw [sinceClose, List.reverse_append, List.reverse_cons, List.append_assoc,
    List.takeWhile_append] at mem
  split at mem
  · simpa using mem
  · exact List.mem_reverse.mp ((List.takeWhile_sublist _).subset mem)

end Text

/-! ## Acts on a console -/

namespace Meter

variable {condition : Option Fault} {console : Console}

/-- **An item makes a meter draw its bar** as it is after the step. -/
theorem advance_traces {meter : Meter} (drawable : meter.bar.Drawable)
    (behaves : console.sink.Behaves condition) :
    console.Traces condition ((Act.draw meter.bar.tick).requests condition)
      (meter.advance console).2.2 := by
  obtain ⟨after, drawn, traces⟩ := meter.bar.tick.draw_traces drawable behaves
  rw [advance, drawn]
  cases condition with
  | none => exact traces
  | some fault => exact traces.trans (after.report_traces traces.behaves (.drawFailed fault))

/-- What a meter does when it is closed now. -/
def lastActs (meter : Meter) : List Act :=
  if meter.isOpen ∧ meter.bar.current < meter.bar.total then [.endLine] else []

/-- A meter that has seen some signals does for its last act what these call for: it ends its line
if an item came since the last close and its bar is not complete. -/
theorem lastActs_after (bar : Bar) (seen : List Signal) :
    (after bar seen).lastActs = closingActs bar seen := by
  simp only [lastActs, closingActs, after, decide_eq_true_eq]
  rfl

/-- **Closing a meter ends its line**, if it is open and its bar unfinished. -/
theorem close_traces (meter : Meter) (behaves : console.sink.Behaves condition) :
    console.Traces condition (Act.requestsOfAll condition meter.lastActs)
      (meter.close console).2 := by
  rw [lastActs, close]
  simp only [← ends_iff]
  split
  · have something : String.join ["\n"] ≠ "" := by decide
    obtain ⟨after, written, traces⟩ := Console.write_traces something behaves
    rw [written]
    cases condition with
    | none => exact traces
    | some fault => exact traces.trans (after.report_traces traces.behaves (.closeFailed fault))
  · exact .refl behaves

end Meter

namespace Nest

variable {nest : Nest} {bars : List Bar} {past : List Signal} {condition : Option Fault}
  {console : Console}

/-- **An item that passes through a nest** asks the console for the line of each bar, one step
further, the innermost first. So the requests of a nest are those of its bars in the order in which
the item meets them. -/
theorem pass_traces (drawable : nest.Drawable) (behaves : console.sink.Behaves condition) :
    console.Traces condition
      (Act.requestsOfAll condition (nest.bars.reverse.map fun bar => .draw bar.tick))
      (nest.pass console).2 := by
  induction nest with
  | bare source => exact .refl behaves
  | metered meter inner ih =>
    obtain ⟨outermost, others⟩ := List.forall_mem_cons.mp drawable
    have inside := ih others
    have outside := Meter.advance_traces outermost inside.behaves
    have own : Act.requestsOfAll condition ([meter.bar].map fun bar => .draw bar.tick) =
        (Act.draw meter.bar.tick).requests condition := List.append_nil _
    rw [Nest.bars, List.reverse_cons, List.map_append, Act.requestsOfAll_append, own]
    exact inside.trans outside

/-- **A signal makes the meters do what it calls for.** An item makes all of them draw; a close is
for the outermost alone. -/
theorem receive_traces (signal : Signal) (stands : nest.meters = metersAfter bars past)
    (drawable : nest.Drawable) (behaves : console.sink.Behaves condition) :
    console.Traces condition (Act.requestsOfAll condition (responseActs bars past signal))
      (nest.receive console signal).2 := by
  cases signal with
  | item =>
    have traces := pass_traces drawable behaves
    rw [bars_of_stands stands, ← List.map_reverse, List.map_map] at traces
    simpa only [responseActs, receive, Function.comp_def, Bar.tick_advance] using traces
  | close =>
    cases nest with
    | bare source =>
      cases bars with
      | nil => exact .refl behaves
      | cons outermost inner => cases stands
    | metered meter rest =>
      cases bars with
      | nil => cases stands
      | cons outermost inner =>
        obtain ⟨rfl, -⟩ := List.cons.inj stands
        rw [responseActs, ← Meter.lastActs_after]
        exact Meter.close_traces _ behaves

/-- **Signals make the meters do what they call for**, one after the other. -/
theorem receiveAll_traces (signals : List Signal) (stands : nest.meters = metersAfter bars past)
    (drawable : nest.Drawable) (behaves : console.sink.Behaves condition) :
    (nest.receiveAll console signals).1.meters = metersAfter bars (past ++ signals) ∧
      console.Traces condition (Act.requestsOfAll condition (acts bars past signals))
        (nest.receiveAll console signals).2 := by
  induction signals generalizing nest past console with
  | nil => exact ⟨by rw [receiveAll, stands, List.append_nil], .refl behaves⟩
  | cons signal rest ih =>
    have traces := receive_traces signal stands drawable behaves
    have drawableThen : (nest.receive console signal).1.Drawable :=
      (drawable_receiveAll nest console [signal]).mpr drawable
    obtain ⟨standsLast, tracesRest⟩ := ih (meters_receive signal stands console) drawableThen
      traces.behaves
    rw [List.append_assoc, List.singleton_append] at standsLast
    rw [acts, Act.requestsOfAll_append]
    exact ⟨standsLast, traces.trans tracesRest⟩

/-- Leaving a nest makes its meters do their last acts, the outermost first. -/
theorem leave_traces (nest : Nest) {console : Console}
    (behaves : console.sink.Behaves condition) :
    console.Traces condition (Act.requestsOfAll condition (nest.meters.flatMap Meter.lastActs))
      (nest.leave console) := by
  induction nest generalizing console with
  | bare source => exact .refl behaves
  | metered meter inner ih =>
    have outside := meter.close_traces behaves
    rw [meters, List.flatMap_cons, Act.requestsOfAll_append]
    exact outside.trans (ih outside.behaves)

theorem lastActs_metersAfter :
    (metersAfter bars past).flatMap Meter.lastActs = farewellActs bars past := by
  cases bars with
  | nil => rfl
  | cons outermost inner =>
    simp only [metersAfter, farewellActs, List.flatMap_cons, List.flatMap_map,
      Meter.lastActs_after]

end Nest

end ProgressBar.Iteration
