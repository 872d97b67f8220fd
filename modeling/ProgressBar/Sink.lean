import ProgressBar.Fault

/-!
# Sinks

A sink takes bytes in the order in which they are written. It may take a limited number of them: a
write gives it what still fits and fails when a byte is left over. It may also refuse to be flushed.

A sink remembers the bytes it has taken and how often it has been flushed, and nothing else can be
seen of it. A text of nothing is written without asking for room, so a full sink does not refuse it.
-/

namespace ProgressBar

/-- **A sink.** -/
structure Sink where
  /-- The bytes taken so far. -/
  taken : ByteArray := .empty
  /-- How many bytes more it takes; without a number, any. -/
  room : Option Nat := none
  /-- How a write fails that does not fit. -/
  refusal : Fault := .writerFull
  /-- How a flush fails, if it does. -/
  flushFault : Option Fault := none
  /-- How many flushes have succeeded. -/
  flushes : Nat := 0

namespace Sink

/-- A sink that takes everything. -/
def unlimited : Sink := {}

/-- A sink that takes nothing, and fails in a way of its own. -/
def failing (fault : Fault) : Sink := { room := some 0, refusal := fault }

/-- **A write of some bytes**, which fails when they do not all fit. -/
def writeBytes (sink : Sink) (bytes : ByteArray) : Except Fault Unit × Sink :=
  match sink.room with
  | none => (.ok (), { sink with taken := sink.taken ++ bytes })
  | some room =>
    if bytes.size ≤ room then
      (.ok (), { sink with taken := sink.taken ++ bytes, room := some (room - bytes.size) })
    else
      (.error sink.refusal,
        { sink with taken := sink.taken ++ bytes.extract 0 room, room := some 0 })

/-- A write of a text in its encoded form. -/
def write (sink : Sink) (text : String) : Except Fault Unit × Sink :=
  sink.writeBytes text.toUTF8

/-- **A flush.** -/
def flush (sink : Sink) : Except Fault Unit × Sink :=
  match sink.flushFault with
  | none => (.ok (), { sink with flushes := sink.flushes + 1 })
  | some fault => (.error fault, sink)

/-- A sink without a limit takes every text whole. Nothing else of it changes, so what is written
behind the text finds the same room. -/
theorem write_of_room_none {sink : Sink} (h : sink.room = none) (text : String) :
    sink.write text = (.ok (), { sink with taken := sink.taken ++ text.toUTF8 }) := by
  simp [write, writeBytes, h]

end Sink

end ProgressBar
