import ProgressBar.Proofs.Quoting
import ProgressBar.Proofs.Refusing

/-!
# Drawing on a sink of limited room

A sink of limited room takes so many bytes in all and is then full. A write that goes beyond the
limit is cut where the room ends, be it inside of a character, and fails.

What a draw does is read off the console it leaves behind, which remembers every request in the
order in which it was made, the last one also when it failed.

**The law** (`Bar.draw_of_limited`): the sink takes the drawn bytes as far as there is room. The
draw finds the sink full exactly when a byte is left over, and then it does not ask for a flush;
else it asks for one, behind the last byte, and comes to what the flush comes to. The report is made
before any write, and there is no other. The line of the log holds the drawn line in quotation marks
(`Text.Quotes`), from which it can be told and no other.

The bytes of all the writes are counted together (`Console.exists_delivers`), so the room may end
inside of the line, behind it, or not at all, and the line may be empty: none of these is a case of
its own. The write of an empty line is a request like any other, but a sink has nothing to do for
it.

A flush is told like the condition of a sink, by the fault it fails with, if it does
(`writeResult`).
-/

namespace ProgressBar

/-! ## Room for bytes -/

/-- **So many bytes overrun a limit**, if there is one. -/
def Overruns (limit : Option Nat) (size : Nat) : Prop := ∃ room, limit = some room ∧ room < size

instance (limit : Option Nat) (size : Nat) : Decidable (Overruns limit size) :=
  match limit with
  | none => isFalse fun overrun => nomatch overrun
  | some room => decidable_of_iff (room < size)
    ⟨fun short => ⟨room, rfl, short⟩, fun overrun => by
      obtain ⟨_, same, short⟩ := overrun
      cases same
      exact short⟩

/-- **The bytes that fit** within a limit: the first of them, as many as there is room for. -/
def fitting (limit : Option Nat) (bytes : ByteArray) : ByteArray :=
  match limit with
  | none => bytes
  | some room => bytes.extract 0 (min room bytes.size)

section Room

variable {limit : Option Nat} {room size : Nat} {first second bytes : ByteArray}

theorem overruns_some_iff : Overruns (some room) size ↔ room < size := by
  simp [Overruns]

theorem not_overruns_none : ¬ Overruns none size := by
  simp [Overruns]

theorem extract_of_size_le (le : bytes.size ≤ room) : bytes.extract 0 room = bytes := by
  rw [← Nat.max_eq_left le]
  exact ByteArray.extract_zero_max_size

theorem fitting_some : fitting (some room) bytes = bytes.extract 0 room := by
  rcases Nat.le_total bytes.size room with all | part
  · rw [fitting, Nat.min_eq_right all, ByteArray.extract_zero_size, extract_of_size_le all]
  · rw [fitting, Nat.min_eq_left part]

theorem fitting_of_not_overruns (fits : ¬ Overruns limit bytes.size) :
    fitting limit bytes = bytes := by
  cases limit with
  | none => rfl
  | some room =>
    rw [overruns_some_iff, Nat.not_lt] at fits
    rw [fitting_some, extract_of_size_le fits]

/-- **Bytes in a row overrun** when the first do, or else the second in the room that is left. -/
theorem overruns_append_iff :
    Overruns limit (first ++ second).size ↔
      Overruns limit first.size ∨ Overruns (limit.map (· - first.size)) second.size := by
  cases limit with
  | none => simp [not_overruns_none]
  | some room =>
    rw [Option.map_some, overruns_some_iff, overruns_some_iff, overruns_some_iff,
      ByteArray.size_append]
    omega

/-- **Of bytes in a row** those fit that fit of the first and then, in the room that is left, of the
second. -/
theorem fitting_append :
    fitting limit (first ++ second) =
      fitting limit first ++ fitting (limit.map (· - first.size)) second := by
  cases limit with
  | none => rfl
  | some room =>
    rw [Option.map_some, fitting_some, fitting_some, fitting_some, ByteArray.extract_append,
      Nat.zero_sub]

/-- Where the first bytes overrun, nothing of the second fits. -/
theorem fitting_append_of_overruns (overrun : Overruns limit first.size) :
    fitting limit (first ++ second) = fitting limit first := by
  obtain ⟨room, rfl, short⟩ := overrun
  rw [fitting_append, Option.map_some, Nat.sub_eq_zero_of_le (Nat.le_of_lt short), fitting_some,
    fitting_some, ByteArray.extract_same, ByteArray.append_empty]

end Room

/-! ## Sinks -/

/-- **A sink of limited room**: how many bytes more it takes, if there is a limit, and how a flush
of it fails, if it does. -/
structure Sink.Limited (sink : Sink) (limit : Option Nat) (flushFault : Option Fault) : Prop where
  room : sink.room = limit
  refusal : sink.refusal = .writerFull
  flushFault : sink.flushFault = flushFault

namespace Sink

variable {sink : Sink} {limit : Option Nat} {flushFault : Option Fault}

/-- **A write takes what fits** and fails when something is left over. What it takes is the
beginning of its bytes, which may end inside of a character. -/
theorem write_of_limited (limited : sink.Limited limit flushFault) (text : String) :
    ∃ later, later.Limited (limit.map (· - text.toUTF8.size)) flushFault ∧
      later.taken = sink.taken ++ fitting limit text.toUTF8 ∧ later.flushes = sink.flushes ∧
      (Overruns limit text.toUTF8.size → sink.write text = (.error .writerFull, later)) ∧
      (¬ Overruns limit text.toUTF8.size → sink.write text = (.ok (), later)) := by
  obtain ⟨taken, room, refusal, flushFault', flushes⟩ := sink
  obtain ⟨rfl, rfl, rfl⟩ := limited
  cases room with
  | none =>
    refine ⟨⟨taken ++ text.toUTF8, none, _, flushFault', flushes⟩, ⟨rfl, rfl, rfl⟩, rfl, rfl, ?_,
      fun _ => rfl⟩
    exact fun overrun => absurd overrun not_overruns_none
  | some room =>
    rw [overruns_some_iff, Nat.not_lt, fitting_some]
    refine ⟨⟨taken ++ text.toUTF8.extract 0 room, some (room - text.toUTF8.size), _, flushFault',
      flushes⟩, ⟨rfl, rfl, rfl⟩, rfl, rfl, fun overrun => ?_, fun fits => ?_⟩
    · rw [Nat.sub_eq_zero_of_le (Nat.le_of_lt overrun)]
      exact if_neg (Nat.not_le.mpr overrun)
    · rw [extract_of_size_le fits]
      exact if_pos fits

end Sink

theorem writeResult_eq_ok_iff {condition : Option Fault} :
    writeResult condition = .ok () ↔ condition = none := by
  cases condition <;> simp [writeResult]

theorem writeResult_eq_error_iff {condition : Option Fault} {fault : Fault} :
    writeResult condition = .error fault ↔ condition = some fault := by
  cases condition <;> simp [writeResult]

/-! ## Deliveries -/

namespace Console

/-- **What comes of writing some texts and flushing** within a limit. The sink takes the bytes that
fit. If they overrun the limit, the sink is full: the texts are written up to the one that goes
beyond the room, and no flush is asked for. If not, everything is asked, and the result is that of
the flush, which is counted when it succeeds. -/
structure Delivers (before : Console) (limit : Option Nat) (flushFault : Option Fault)
    (texts : List String) (after : Console) : Prop where
  taken : after.sink.taken = before.sink.taken ++ fitting limit (String.join texts).toUTF8
  overrun : Overruns limit (String.join texts).toUTF8.size →
    before.write texts = (.error .writerFull, after) ∧
      after.sink.flushes = before.sink.flushes ∧
      ∃ front last, front ++ [last] <+: texts ∧
        ¬ Overruns limit (String.join front).toUTF8.size ∧
        Overruns limit (String.join (front ++ [last])).toUTF8.size ∧
        after.asked.toList = before.asked.toList ++ (front ++ [last]).map .write
  fits : ¬ Overruns limit (String.join texts).toUTF8.size →
    before.write texts = (writeResult flushFault, after) ∧
      after.sink.flushes = before.sink.flushes + (if flushFault = none then 1 else 0) ∧
      after.asked.toList = before.asked.toList ++ deliveries texts

variable {console : Console} {limit : Option Nat} {flushFault : Option Fault}

/-- Nothing does not overrun a limit. -/
theorem not_overruns_zero : ¬ Overruns limit 0 := by
  rintro ⟨room, -, short⟩
  exact absurd short (Nat.not_lt_zero room)

/-- A flush takes no bytes, and is remembered whether or not it succeeds. -/
theorem delivers_flush (limited : console.sink.Limited limit flushFault) :
    ∃ after, console.Delivers limit flushFault [] after := by
  have nothing : ¬ Overruns limit (String.join []).toUTF8.size := not_overruns_zero
  have flushed : console.serve .flush = (writeResult flushFault, (console.serve .flush).2) := by
    rw [serve, Sink.flush, limited.flushFault]
    cases flushFault <;> rfl
  refine ⟨(console.serve .flush).2, ?_, fun overrun => absurd overrun nothing,
    fun _ => ⟨?_, ?_, ?_⟩⟩
  · rw [fitting_of_not_overruns nothing, serve, Sink.flush, limited.flushFault]
    cases flushFault <;> exact (ByteArray.append_empty).symm
  · cases flushFault with
    | none => exact serveAll_cons_of_ok flushed
    | some fault => exact serveAll_cons_of_error flushed
  · rw [serve, Sink.flush, limited.flushFault]
    cases flushFault <;> rfl
  · exact console.asked_serve .flush

/-- **What comes of a single write** within a limit: the sink takes what fits, the room shrinks by
all of the text, and the write is remembered. -/
structure Writes (before : Console) (limit : Option Nat) (flushFault : Option Fault) (text : String)
    (after : Console) : Prop where
  limited : after.sink.Limited (limit.map (· - text.toUTF8.size)) flushFault
  taken : after.sink.taken = before.sink.taken ++ fitting limit text.toUTF8
  flushes : after.sink.flushes = before.sink.flushes
  asked : after.asked.toList = before.asked.toList ++ [.write text]
  overrun : Overruns limit text.toUTF8.size →
    before.serve (.write text) = (.error .writerFull, after)
  fits : ¬ Overruns limit text.toUTF8.size → before.serve (.write text) = (.ok (), after)

theorem exists_writes (limited : console.sink.Limited limit flushFault) (text : String) :
    ∃ after, console.Writes limit flushFault text after := by
  obtain ⟨later, stays, taken, flushes, overrun, fits⟩ := Sink.write_of_limited limited text
  refine ⟨{ sink := later, asked := console.asked.push (.write text) }, stays, taken, flushes,
    Array.toList_push, ?_, ?_⟩
  · intro short
    rw [serve, overrun short]
  · intro whole
    rw [serve, fits whole]

section Join

variable {text : String} {rest : List String}

theorem toUTF8_join_cons :
    (String.join (text :: rest)).toUTF8 = text.toUTF8 ++ (String.join rest).toUTF8 := by
  rw [String.join_cons]
  rfl

/-- A text that fits leaves it to the others whether all of them do. -/
theorem overruns_join_cons_iff (fits : ¬ Overruns limit text.toUTF8.size) :
    Overruns limit (String.join (text :: rest)).toUTF8.size ↔
      Overruns (limit.map (· - text.toUTF8.size)) (String.join rest).toUTF8.size := by
  rw [toUTF8_join_cons]
  exact overruns_append_iff.trans (or_iff_right fits)

variable {later after : Console}

/-- **A text that overruns is the last one written**, and its bytes are the last ones taken. -/
theorem Writes.delivers_of_overrun (writes : console.Writes limit flushFault text after)
    (overrun : Overruns limit text.toUTF8.size) :
    console.Delivers limit flushFault (text :: rest) after := by
  have alone : String.join [text] = text := by
    rw [String.join_cons, String.join_nil, String.append_empty]
  refine ⟨?_, fun _ => ?_, fun fits => ?_⟩
  · rw [toUTF8_join_cons, fitting_append_of_overruns overrun]
    exact writes.taken
  · refine ⟨serveAll_cons_of_error (writes.overrun overrun), writes.flushes, [], text, ?_,
      not_overruns_zero, ?_, writes.asked⟩
    · exact ⟨rest, rfl⟩
    · rwa [List.nil_append, alone]
  · rw [toUTF8_join_cons] at fits
    exact absurd (overruns_append_iff.mpr (.inl overrun)) fits

/-- **A text that fits leaves the rest of the room to the others**, so what comes of them comes of
all. -/
theorem Writes.delivers_of_fits (writes : console.Writes limit flushFault text later)
    (fits : ¬ Overruns limit text.toUTF8.size)
    (delivers : later.Delivers (limit.map (· - text.toUTF8.size)) flushFault rest after) :
    console.Delivers limit flushFault (text :: rest) after := by
  have served : console.write (text :: rest) = later.write rest :=
    serveAll_cons_of_ok (writes.fits fits)
  refine ⟨?_, fun overrun => ?_, fun whole => ?_⟩
  · rw [delivers.taken, writes.taken, toUTF8_join_cons, fitting_append,
      fitting_of_not_overruns fits, ByteArray.append_assoc]
  · obtain ⟨result, flushes, front, last, first, fitting, beyond, asked⟩ :=
      delivers.overrun ((overruns_join_cons_iff fits).mp overrun)
    refine ⟨served.trans result, flushes.trans writes.flushes, text :: front, last, ?_, ?_, ?_, ?_⟩
    · exact List.cons_prefix_cons.mpr ⟨rfl, first⟩
    · exact mt (overruns_join_cons_iff fits).mp fitting
    · exact (overruns_join_cons_iff fits).mpr beyond
    · rw [asked, writes.asked, List.append_assoc]
      rfl
  · obtain ⟨result, flushes, asked⟩ := delivers.fits (mt (overruns_join_cons_iff fits).mpr whole)
    refine ⟨served.trans result, ?_, ?_⟩
    · rw [flushes, writes.flushes]
    · rw [asked, writes.asked, List.append_assoc]
      rfl

end Join

/-- **The bytes of all writes are delivered together.** Each write leaves a sink whose room is less
by the bytes of that write, so the induction goes over the texts with the limit going down. -/
theorem exists_delivers (console : Console) (limited : console.sink.Limited limit flushFault)
    (texts : List String) : ∃ after, console.Delivers limit flushFault texts after := by
  induction texts generalizing console limit with
  | nil => exact delivers_flush limited
  | cons text rest ih =>
    obtain ⟨later, writes⟩ := exists_writes limited text
    by_cases overrun : Overruns limit text.toUTF8.size
    · exact ⟨later, writes.delivers_of_overrun overrun⟩
    · obtain ⟨after, delivers⟩ := ih later writes.limited
      exact ⟨after, writes.delivers_of_fits overrun delivers⟩

end Console

namespace Bar

/-! ## Draws -/

/-- **A draw is a report and then a write** of the line and its end. -/
theorem draw_eq_write (bar : Bar) (drawable : bar.Drawable) (console : Console) :
    let written := (console.report (.drawing bar.line)).write [bar.line, bar.terminator]
    bar.draw console = (written.1.mapError .sink, written.2) := by
  intro written
  have laidOut : bar.line? = some bar.line := line?_eq_some_iff.mpr ⟨drawable, rfl⟩
  rw [draw, laidOut]
  dsimp only
  rw [show (console.report (.drawing bar.line)).write [bar.line, bar.terminator] = written from rfl]
  obtain ⟨result, after⟩ := written
  cases result <;> rfl

/-- **The writes of a draw that finds the sink full**: the line alone if it does not fit, or else
the line and its end. -/
theorem requests_of_overrun {bar : Bar} {limit : Option Nat} {front : List String} {last : String}
    (first : front ++ [last] <+: [bar.line, bar.terminator])
    (fits : ¬ Overruns limit (String.join front).toUTF8.size)
    (beyond : Overruns limit (String.join (front ++ [last])).toUTF8.size) :
    (front ++ [last]).map Request.write =
      if Overruns limit bar.line.toUTF8.size then [.write bar.line]
      else [.write bar.line, .write bar.terminator] := by
  have alone : String.join [bar.line] = bar.line := by
    rw [String.join_cons, String.join_nil, String.append_empty]
  rcases front with - | ⟨text, more⟩
  · obtain ⟨rfl, -⟩ := List.cons_prefix_cons.mp first
    rw [List.nil_append, alone] at beyond
    rw [if_pos beyond]
    rfl
  · obtain ⟨rfl, second⟩ := List.cons_prefix_cons.mp first
    rcases more with - | ⟨next, more⟩
    · obtain ⟨rfl, -⟩ := List.cons_prefix_cons.mp second
      rw [alone] at fits
      rw [if_neg fits]
      rfl
    · obtain ⟨-, third⟩ := List.cons_prefix_cons.mp second
      simp at third

section Draws

variable {bar : Bar} {console : Console} {limit : Option Nat} {flushFault : Option Fault}

/-- **A draw that finds the sink full** reports the line, and then writes up to the text that goes
beyond the room. The sink is not flushed. -/
theorem draw_of_overrun (drawable : bar.Drawable)
    (limited : console.sink.Limited limit flushFault)
    (full : Overruns limit bar.drawnLine.toUTF8.size) :
    ∃ after, bar.draw console = (.error (.sink .writerFull), after) ∧
      after.asked.toList = console.asked.toList ++ .report (.drawing bar.line) ::
        (if Overruns limit bar.line.toUTF8.size then [.write bar.line]
          else [.write bar.line, .write bar.terminator]) ∧
      after.sink.taken = console.sink.taken ++ fitting limit bar.drawnLine.toUTF8 ∧
      after.sink.flushes = console.sink.flushes := by
  obtain ⟨after, taken, overrun, -⟩ :=
    (console.report (.drawing bar.line)).exists_delivers limited [bar.line, bar.terminator]
  rw [join_line_terminator] at taken overrun
  obtain ⟨result, flushes, front, last, tried, fitsFront, beyond, asked⟩ := overrun full
  rw [requests_of_overrun tried fitsFront beyond, console.asked_report, List.append_assoc] at asked
  have drawn := bar.draw_eq_write drawable console
  dsimp only at drawn
  rw [result] at drawn
  exact ⟨after, drawn, asked, taken, flushes⟩

/-- **A draw for which there is room** makes all its requests and comes to what the flush comes
to. -/
theorem draw_of_room (drawable : bar.Drawable) (limited : console.sink.Limited limit flushFault)
    (room : ¬ Overruns limit bar.drawnLine.toUTF8.size) :
    ∃ after, bar.draw console = ((writeResult flushFault).mapError .sink, after) ∧
      after.asked.toList = console.asked.toList ++
        [.report (.drawing bar.line), .write bar.line, .write bar.terminator, .flush] ∧
      after.sink.taken = console.sink.taken ++ fitting limit bar.drawnLine.toUTF8 ∧
      after.sink.flushes = console.sink.flushes + if flushFault = none then 1 else 0 := by
  obtain ⟨after, taken, -, fits⟩ :=
    (console.report (.drawing bar.line)).exists_delivers limited [bar.line, bar.terminator]
  rw [join_line_terminator] at taken fits
  obtain ⟨result, flushes, asked⟩ := fits room
  rw [console.asked_report, List.append_assoc] at asked
  have drawn := bar.draw_eq_write drawable console
  dsimp only at drawn
  rw [result] at drawn
  exact ⟨after, drawn, asked, taken, flushes⟩

end Draws

/-- **The line of the log about a draw**: its level, what is done, and the drawn line in quotation
marks. The line can be told from its quoted form, in which no character breaks the line of the
log. -/
theorem text_drawing_quotes (line : String) :
    ∃ quoted, (Log.Event.drawing line).text = "TRACE drawing " ++ quoted ∧
      Text.Quotes line quoted ∧ (∀ other, Text.Quotes other quoted → other = line) ∧
      ∀ c ∈ quoted.toList, 0x20 ≤ c.toNat := by
  have quotes := Text.quotes_quoted line
  exact ⟨Text.quoted line, Log.text_drawing line, quotes, fun _ others => others.text_eq quotes,
    quotes.not_control⟩

/-- **A draw on a sink of limited room.** Take any bar that can be rendered, and any console whose
sink takes so many bytes more, or any number, and whose flush succeeds or fails, though not with the
fault of a full sink, which tells a cut. The draw reports the line first and makes its other
requests behind that. The sink takes the bytes of the drawn line that fit, and the draw finds it
full exactly when they do not all fit. Then it asks for no flush: only for the line, or also for its
end if the line fits. If all the bytes fit, it asks for both and last for the only flush, and comes
to what the flush comes to. Either way the log grows by one line, which quotes the whole line that
is drawn and could quote no other; and a draw of the same bar on a sink that works prints all of
it. -/
theorem draw_of_limited (bar : Bar) (drawable : bar.Drawable) (limit : Option Nat)
    (flushFault : Option Fault) (told : flushFault ≠ some .writerFull) (console : Console)
    (limited : console.sink.Limited limit flushFault) :
    let bytes := bar.drawnLine.toUTF8
    ∃ (result : Except Fault Unit) (after : Console) (behind : List Request),
      bar.draw console = (result.mapError .sink, after) ∧
      after.asked.toList = console.asked.toList ++ .report (.drawing bar.line) :: behind ∧
      (∀ event, Request.report event ∉ behind) ∧
      after.sink.taken = console.sink.taken ++ fitting limit bytes ∧
      (result = .error .writerFull ↔ Overruns limit bytes.size) ∧
      (Overruns limit bytes.size →
        .flush ∉ behind ∧ after.sink.flushes = console.sink.flushes ∧
          behind = if Overruns limit bar.line.toUTF8.size then [.write bar.line]
            else [.write bar.line, .write bar.terminator]) ∧
      (¬ Overruns limit bytes.size →
        behind = [.write bar.line, .write bar.terminator, .flush] ∧
          (result = .ok () ↔ flushFault = none) ∧
          (∀ fault, result = .error fault ↔ flushFault = some fault) ∧
          after.sink.flushes = console.sink.flushes + if flushFault = none then 1 else 0) ∧
      after.log.toList = console.log.toList ++ [.drawing bar.line] ∧
      (∃ quoted, (Log.Event.drawing bar.line).text = "TRACE drawing " ++ quoted ∧
        Text.Quotes bar.line quoted ∧ (∀ other, Text.Quotes other quoted → other = bar.line) ∧
        ∀ c ∈ quoted.toList, 0x20 ≤ c.toNat) ∧
      ∀ later : Console, later.sink.Works →
        ∃ done, bar.draw later = (.ok (), done) ∧ later.Prints bar.drawnLine done := by
  intro bytes
  have traced := text_drawing_quotes bar.line
  have again : ∀ later : Console, later.sink.Works →
      ∃ done, bar.draw later = (.ok (), done) ∧ later.Prints bar.drawnLine done :=
    fun later works => bar.draw_of_works drawable works
  by_cases full : Overruns limit bytes.size
  · obtain ⟨after, drawn, asked, taken, flushes⟩ := draw_of_overrun drawable limited full
    have log := Console.toList_log_of_asked asked
    refine ⟨.error .writerFull, after, _, drawn, asked, ?_, taken, iff_of_true rfl full, ?_,
      fun room => absurd full room, ?_, traced, again⟩
    · intro event
      split <;> simp
    · refine fun _ => ⟨?_, flushes, rfl⟩
      split <;> simp
    · rw [log]
      split <;> rfl
  · obtain ⟨after, drawn, asked, taken, flushes⟩ := draw_of_room drawable limited full
    have notFull : writeResult flushFault ≠ .error .writerFull :=
      mt writeResult_eq_error_iff.mp told
    refine ⟨writeResult flushFault, after, _, drawn, asked, ?_, taken, iff_of_false notFull full,
      fun short => absurd short full, ?_, Console.toList_log_of_asked asked, traced, again⟩
    · intro event
      simp
    · exact fun _ => ⟨rfl, writeResult_eq_ok_iff, fun _ => writeResult_eq_error_iff, flushes⟩

/-- Room that ends inside of a symbol of three bytes, and then room for all of the line and no
flush. What was asked tells the two apart, and the log shows the line in either case. -/
theorem draw_of_limited_inside_symbol :
    let bar : Bar := ⟨'█', ('[', ']'), 2, 2, 1, true, true, Template.standard, by decide⟩
    let console (room : Nat) : Console :=
      { sink := { room := some room, flushFault := some .flushFailed } }
    (∀ room, (console room).sink.Limited (some room) (some .flushFailed)) ∧ bar.Drawable ∧
      (∃ after, bar.draw (console 2) = (.error (.sink .writerFull), after) ∧
        after.sink.taken.data = #[0x5B, 0xE2] ∧
        after.asked.toList = [.report (.drawing "[█ ] 50% 1/2"), .write "[█ ] 50% 1/2"] ∧
        after.log.toList.map Log.Event.text = ["TRACE drawing \"[█ ] 50% 1/2\""]) ∧
      ∃ after, bar.draw (console 15) = (.error (.sink .flushFailed), after) ∧
        after.sink.taken = "[█ ] 50% 1/2\r".toUTF8 ∧
        after.asked.toList = [.report (.drawing "[█ ] 50% 1/2"), .write "[█ ] 50% 1/2",
          .write "\r", .flush] := by
  intro bar console
  have limited (room : Nat) : (console room).sink.Limited (some room) (some .flushFailed) :=
    ⟨rfl, rfl, rfl⟩
  have drawable : bar.Drawable := by decide
  have line : bar.line = "[█ ] 50% 1/2" := by decide
  have size : bar.drawnLine.toUTF8.size = 15 := by decide
  have lineSize : bar.line.toUTF8.size = 14 := by decide
  have cut : Overruns (some 2) bar.drawnLine.toUTF8.size := overruns_some_iff.mpr (by omega)
  have cutLine : Overruns (some 2) bar.line.toUTF8.size := overruns_some_iff.mpr (by omega)
  have whole : ¬ Overruns (some 15) bar.drawnLine.toUTF8.size := by
    rw [overruns_some_iff]
    omega
  refine ⟨limited, drawable, ?_, ?_⟩
  · obtain ⟨result, after, behind, drawn, asked, -, taken, full, unflushed, -, log, -⟩ :=
      draw_of_limited bar drawable (some 2) (some .flushFailed) (by decide) (console 2) (limited 2)
    obtain ⟨-, -, made⟩ := unflushed cut
    rw [full.mpr cut] at drawn
    rw [made, if_pos cutLine, line] at asked
    refine ⟨after, drawn, ?_, asked, ?_⟩
    · rw [taken]
      decide
    · rw [log, line]
      decide +kernel
  · obtain ⟨result, after, behind, drawn, asked, -, taken, -, -, flushed, -⟩ :=
      draw_of_limited bar drawable (some 15) (some .flushFailed) (by decide) (console 15)
        (limited 15)
    obtain ⟨made, -, failed, -⟩ := flushed whole
    have terminator : bar.terminator = "\r" := by decide
    rw [(failed .flushFailed).mpr rfl] at drawn
    rw [made, line, terminator] at asked
    refine ⟨after, drawn, ?_, asked⟩
    rw [taken, fitting_of_not_overruns whole]
    decide

end Bar

end ProgressBar
