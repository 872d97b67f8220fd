import ProgressBar.Log
import ProgressBar.Sink

/-!
# Consoles

A console is what a bar acts on: a sink and a log. It is asked for three things, to report an event,
to write a text, and to flush; and it remembers what it was asked, one request behind the other,
whether or not the sink could do it. So of a report and a write it can be told which came first, and
of a flush that failed that it was asked for. The log is what was reported of all that was asked.

Operations on a console give the console back, also when they fail, so what was done before a
failure stays.
-/

namespace ProgressBar

/-- **What is asked of a console.** -/
inductive Request where
  /-- Put an event on the log. -/
  | report (event : Log.Event)
  /-- Write a text, all of it. -/
  | write (text : String)
  | flush
  deriving DecidableEq, Repr

/-- The event that a request reports, if it reports one. -/
def Request.event? : Request → Option Log.Event
  | report event => some event
  | write _ | flush => none

/-- **A console**: a sink, and what has been asked so far, the oldest request first. -/
structure Console where
  sink : Sink := {}
  asked : Array Request := #[]

namespace Console

/-- **The log**: the events that were reported, the oldest first. -/
def log (console : Console) : Array Log.Event := console.asked.filterMap Request.event?

/-- **Serve a request.** It is remembered, also when the sink fails; a report never fails. -/
def serve (console : Console) (request : Request) : Except Fault Unit × Console :=
  let asked := console.asked.push request
  match request with
  | .report _ => (.ok (), { console with asked })
  | .write text =>
    let (result, sink) := console.sink.write text
    (result, { sink, asked })
  | .flush =>
    let (result, sink) := console.sink.flush
    (result, { sink, asked })

/-- **Serve requests one after the other**, up to the first that fails. -/
def serveAll (console : Console) : List Request → Except Fault Unit × Console
  | [] => (.ok (), console)
  | request :: rest =>
    match console.serve request with
    | (.ok (), console) => console.serveAll rest
    | (.error fault, console) => (.error fault, console)

/-- Report an event. -/
def report (console : Console) (event : Log.Event) : Console :=
  (console.serve (.report event)).2

/-- The requests that write some texts and then flush. -/
def deliveries (texts : List String) : List Request := texts.map .write ++ [.flush]

/-- **Write texts and flush**, up to the first fault. -/
def write (console : Console) (texts : List String) : Except Fault Unit × Console :=
  console.serveAll (deliveries texts)

/-! ## What a console remembers -/

/-- **A console remembers every request**, served or not, behind all it was asked before. -/
theorem asked_serve (console : Console) (request : Request) :
    (console.serve request).2.asked.toList = console.asked.toList ++ [request] := by
  cases request <;> exact Array.toList_push

/-- A report is one more request, behind all those that were made before. -/
theorem asked_report (console : Console) (event : Log.Event) :
    (console.report event).asked.toList = console.asked.toList ++ [.report event] :=
  console.asked_serve (.report event)

/-- Reporting does not touch the sink: what goes into the log is not written, and takes none of the
room there is for writing. -/
theorem sink_report (console : Console) (event : Log.Event) :
    (console.report event).sink = console.sink := rfl

/-- The log is read off the requests: it is what was reported among them, in the order of asking. -/
theorem toList_log (console : Console) :
    console.log.toList = console.asked.toList.filterMap Request.event? :=
  Array.toList_filterMap

/-- **The log grows by the events of the requests**, so it can be read off whatever is known of what
was asked. -/
theorem toList_log_of_asked {before after : Console} {requests : List Request}
    (asked : after.asked.toList = before.asked.toList ++ requests) :
    after.log.toList = before.log.toList ++ requests.filterMap Request.event? := by
  rw [toList_log, toList_log, asked, List.filterMap_append]

section Served

variable {console served : Console} {request : Request} {rest : List Request} {fault : Fault}

theorem serveAll_cons_of_ok (ok : console.serve request = (.ok (), served)) :
    console.serveAll (request :: rest) = served.serveAll rest := by
  rw [serveAll, ok]

theorem serveAll_cons_of_error (failed : console.serve request = (.error fault, served)) :
    console.serveAll (request :: rest) = (.error fault, served) := by
  rw [serveAll, failed]

end Served

end Console

end ProgressBar
