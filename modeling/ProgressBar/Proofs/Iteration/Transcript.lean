import ProgressBar.Proofs.Iteration.Reaction
import ProgressBar.Proofs.Iteration.Supply

/-!
# What a nest writes

The output of a nest on a console that works, told by the signals that have reached its meters. No
flag appears in it: whether a close ends a line is read off the past, which says whether the meter
was drawn since it was last closed.

**The law** (`Nest.takeSteps_writes`): an item makes every meter write its line, the innermost
first; a close, or leaving the nest, ends the lines of unfinished bars that were drawn since they
were last closed. So the output of a nest that was left is empty when no item was pulled, and ends
with a line feed otherwise.

The proof keeps the meters equal to `metersAfter`, the meters as the past has left them: a meter is
open exactly when it has seen an item since the last close.
-/

namespace ProgressBar.Iteration

/-! ## The transcript -/

/-- The signals that came after the last close. -/
def sinceClose (past : List Signal) : List Signal := past.reverse.takeWhile (· ≠ .close)

/-- **What a meter writes when it is closed** after the signals it has seen: a line feed, if it was
drawn since it was last closed and its bar is below its total. -/
def closing (bar : Bar) (seen : List Signal) : String :=
  let current := (bar.advance (seen.count .item)).current
  if .item ∈ sinceClose seen ∧ current < bar.total then "\n" else ""

/-- **What the meters around `bars` write on a signal**, after the signals of the past. -/
def response (bars : List Bar) (past : List Signal) : Signal → String
  | .item =>
    String.join (bars.reverse.map fun bar => (bar.advance (past.count .item + 1)).drawnLine)
  | .close =>
    match bars with
    | [] => ""
    | outermost :: _ => closing outermost past

/-- **What the meters write** on signals that follow those of the past. -/
def transcript (bars : List Bar) (past : List Signal) : List Signal → String
  | [] => ""
  | signal :: rest => response bars past signal ++ transcript bars (past ++ [signal]) rest

/-- The signals of the past that a meter inside another has seen. -/
def seenInside (past : List Signal) : List Signal := past.filter (· = .item)

/-- **What the meters write when the nest is left**, the outermost first. -/
def farewell (bars : List Bar) (past : List Signal) : String :=
  match bars with
  | [] => ""
  | outermost :: inner =>
    closing outermost past ++ String.join (inner.map fun bar => closing bar (seenInside past))

section Past

variable (bars : List Bar) (past first second : List Signal)

/-- The transcript of signals in two parts: the second part is written with the first in mind. -/
theorem transcript_append :
    transcript bars past (first ++ second) =
      transcript bars past first ++ transcript bars (past ++ first) second := by
  induction first generalizing past with
  | nil => rw [List.nil_append, transcript, String.empty_append, List.append_nil]
  | cons signal rest ih =>
    rw [List.cons_append, transcript, ih, transcript, String.append_assoc, List.append_assoc,
      List.singleton_append]

theorem sinceClose_item : sinceClose (past ++ [.item]) = .item :: sinceClose past := by
  simp [sinceClose]

theorem sinceClose_close : sinceClose (past ++ [.close]) = [] := by
  simp [sinceClose]

/-- Inside there were only items, since a close is not passed on. -/
theorem seenInside_eq : seenInside past = List.replicate (past.count .item) .item := by
  rw [seenInside, List.filter_eq]

theorem count_seenInside : (seenInside past).count .item = past.count .item := by
  rw [seenInside_eq, List.count_replicate_self]

end Past

/-! ## Meters as the past has left them -/

/-- A meter that has seen some signals. -/
def Meter.after (bar : Bar) (seen : List Signal) : Meter :=
  ⟨bar.advance (seen.count .item), .item ∈ sinceClose seen⟩

/-- **The meters as the past has left them**: only the outermost was ever closed. -/
def metersAfter (bars : List Bar) (past : List Signal) : List Meter :=
  match bars with
  | [] => []
  | outermost :: inner =>
    Meter.after outermost past :: inner.map fun bar => Meter.after bar (seenInside past)

namespace Meter

variable (bar : Bar) (seen : List Signal)

/-- An item moves the bar of a meter by one and leaves the meter open. -/
theorem after_item : after bar (seen ++ [.item]) = ⟨(after bar seen).bar.tick, true⟩ := by
  simp [after, sinceClose_item, Bar.tick_advance]

theorem after_close : after bar (seen ++ [.close]) = { after bar seen with isOpen := false } := by
  simp [after, sinceClose_close]

/-- **An item makes a meter write its line** as it is after the step. -/
theorem advance_prints {meter : Meter} {console : Console} (drawable : meter.bar.Drawable)
    (works : console.sink.Works) :
    console.Prints meter.bar.tick.drawnLine (meter.advance console).2.2 := by
  obtain ⟨after, drawn, prints⟩ := Bar.draw_of_works meter.bar.tick drawable works
  rw [advance, drawn]
  exact prints

/-- What a meter writes when it is closed now. -/
def lastWord (meter : Meter) : String :=
  if meter.isOpen ∧ meter.bar.current < meter.bar.total then "\n" else ""

/-- What a meter has to say last, told by the signals it has seen. -/
theorem lastWord_after : (after bar seen).lastWord = closing bar seen := by
  simp only [lastWord, closing, after, decide_eq_true_eq]
  rfl

/-- The condition under which closing a meter writes, in the words of its bar. -/
theorem ends_iff (meter : Meter) : (meter.isOpen && !meter.bar.isComplete) = true ↔
    meter.isOpen ∧ meter.bar.current < meter.bar.total := by
  rw [Bool.and_eq_true, Bool.not_eq_true', ← Bool.not_eq_true, Bar.isComplete_iff, Int64.not_le]

/-- **Closing a meter ends its line**, if it is open and its bar unfinished. -/
theorem close_prints (meter : Meter) {console : Console} (works : console.sink.Works) :
    console.Prints meter.lastWord (meter.close console).2 := by
  rw [lastWord, close]
  simp only [← ends_iff]
  split
  · obtain ⟨after, written, prints⟩ := console.write_of_works ["\n"] works
    rw [written]
    exact prints
  · exact .refl works

end Meter

namespace Nest

variable {nest : Nest} {bars : List Bar} {past : List Signal} {console : Console}

/-- **An item that passes through a nest prints the line of each bar**, one step further, the
innermost first: a meter draws only when what it is put around has given it the item. -/
theorem pass_prints (drawable : nest.Drawable) (works : console.sink.Works) :
    console.Prints (String.join (nest.bars.reverse.map fun bar => bar.tick.drawnLine))
      (nest.pass console).2 := by
  induction nest with
  | bare source => exact .refl works
  | metered meter inner ih =>
    obtain ⟨outermost, others⟩ := List.forall_mem_cons.mp drawable
    have inside := ih others
    have outside := Meter.advance_prints outermost inside.works
    have own : String.join ([meter.bar].map fun bar => bar.tick.drawnLine) =
        meter.bar.tick.drawnLine := by
      simp only [List.map_cons, List.map_nil, String.join_cons, String.join_nil,
        String.append_empty]
    rw [bars, List.reverse_cons, List.map_append, String.join_append, own]
    exact inside.trans outside

/-- **A signal leaves the meters as the past with it leaves them**, whatever becomes of what they
write. -/
theorem meters_receive (signal : Signal) (stands : nest.meters = metersAfter bars past)
    (console : Console) :
    (nest.receive console signal).1.meters = metersAfter bars (past ++ [signal]) := by
  cases signal with
  | item =>
    rw [receive, meters_pass, stands]
    cases bars with
    | nil => rfl
    | cons outermost inner =>
      have inside : seenInside (past ++ [.item]) = seenInside past ++ [.item] := by
        simp [seenInside]
      simp only [metersAfter, List.map_cons, List.map_map, inside, Meter.after_item,
        Function.comp_def]
  | close =>
    rw [receive, meters_close, stands]
    cases bars with
    | nil => rfl
    | cons outermost inner =>
      have inside : seenInside (past ++ [.close]) = seenInside past := by simp [seenInside]
      rw [metersAfter, metersAfter, inside, Meter.after_close]
      rfl

/-- Where the meters stand as some signals have left them, every bar has advanced by the items among
these. -/
theorem bars_of_stands (stands : nest.meters = metersAfter bars past) :
    nest.bars = bars.map (·.advance (past.count .item)) := by
  rw [bars_eq_map_meters, stands]
  cases bars with
  | nil => rfl
  | cons outermost inner =>
    simp only [metersAfter, List.map_cons, List.map_map, Meter.after, count_seenInside,
      Function.comp_def]

/-- **A signal makes the meters write its response**, provided they stand as the signals before have
left them. -/
theorem receive_prints (signal : Signal) (stands : nest.meters = metersAfter bars past)
    (drawable : nest.Drawable) (works : console.sink.Works) :
    console.Prints (response bars past signal) (nest.receive console signal).2 := by
  cases signal with
  | item =>
    have prints := pass_prints drawable works
    rw [bars_of_stands stands, ← List.map_reverse, List.map_map] at prints
    simpa only [response, receive, Function.comp_def, Bar.tick_advance] using prints
  | close =>
    cases nest with
    | bare source =>
      cases bars with
      | nil => exact .refl works
      | cons outermost inner => cases stands
    | metered meter rest =>
      cases bars with
      | nil => cases stands
      | cons outermost inner =>
        obtain ⟨rfl, -⟩ := List.cons.inj stands
        rw [response, ← Meter.lastWord_after]
        exact Meter.close_prints _ works

/-- **Signals make the meters write the transcript of them.** The induction is on the signals; what
carries it is where the meters stand. -/
theorem receiveAll_prints (signals : List Signal) (stands : nest.meters = metersAfter bars past)
    (drawable : nest.Drawable) (works : console.sink.Works) :
    (nest.receiveAll console signals).1.meters = metersAfter bars (past ++ signals) ∧
      console.Prints (transcript bars past signals) (nest.receiveAll console signals).2 := by
  induction signals generalizing nest past console with
  | nil => exact ⟨by rw [receiveAll, stands, List.append_nil], .refl works⟩
  | cons signal rest ih =>
    have standsThen := meters_receive signal stands console
    have prints := receive_prints signal stands drawable works
    have drawableThen : (nest.receive console signal).1.Drawable :=
      (drawable_receiveAll nest console [signal]).mpr drawable
    obtain ⟨standsLast, printsRest⟩ := ih standsThen drawableThen prints.works
    rw [List.append_assoc, List.singleton_append] at standsLast
    exact ⟨standsLast, prints.trans printsRest⟩

/-- Leaving a nest makes its meters say their last words, the outermost first. -/
theorem leave_prints (nest : Nest) {console : Console} (works : console.sink.Works) :
    console.Prints (String.join (nest.meters.map Meter.lastWord)) (nest.leave console) := by
  induction nest generalizing console with
  | bare source => exact .refl works
  | metered meter inner ih =>
    have outside := Meter.close_prints meter works
    rw [meters, List.map_cons, String.join_cons]
    exact outside.trans (ih outside.works)

/-- What all meters have to say last makes up the farewell of the nest. -/
theorem join_lastWord_metersAfter :
    String.join ((metersAfter bars past).map Meter.lastWord) = farewell bars past := by
  cases bars with
  | nil => rfl
  | cons outermost inner =>
    simp only [metersAfter, farewell, List.map_cons, List.map_map, String.join_cons,
      Meter.lastWord_after, Function.comp_def]

end Nest

/-! ## How an output ends -/

/-- Text that ends its last line. -/
def EndsLine (text : String) : Prop := ∃ before, text = before ++ "\n"

/-- Text of line feeds alone, or of nothing. -/
def OnlyFeeds (text : String) : Prop := ∀ c ∈ text.toList, c = '\n'

theorem onlyFeeds_append {first second : String} (firstFeeds : OnlyFeeds first)
    (secondFeeds : OnlyFeeds second) : OnlyFeeds (first ++ second) := by
  intro c mem
  rw [String.toList_append, List.mem_append] at mem
  exact mem.elim (firstFeeds c) (secondFeeds c)

theorem onlyFeeds_join {texts : List String} (feeds : ∀ text ∈ texts, OnlyFeeds text) :
    OnlyFeeds (String.join texts) := by
  intro c mem
  rw [String.toList_join, List.mem_flatMap] at mem
  obtain ⟨text, textMem, cMem⟩ := mem
  exact feeds text textMem c cMem

/-- Closing writes a line feed or nothing. -/
theorem onlyFeeds_closing (bar : Bar) (seen : List Signal) : OnlyFeeds (closing bar seen) := by
  intro c mem
  rw [closing] at mem
  split at mem
  · simpa using mem
  · simp at mem

/-- A text behind which there come only line feeds ends its line, if one comes or the text did so
itself. -/
theorem endsLine_append {text feeds : String} (only : OnlyFeeds feeds)
    (ends : feeds = "" → EndsLine text) : EndsLine (text ++ feeds) := by
  rcases List.eq_nil_or_concat feeds.toList with none | ⟨front, last, some⟩
  · have empty : feeds = "" := String.toList_inj.mp none
    rw [empty, String.append_empty]
    exact ends empty
  · have isFeed : last = '\n' := only last (by rw [some]; simp)
    refine ⟨text ++ String.ofList front, ?_⟩
    apply String.toList_inj.mp
    simp [some, isFeed]

section Ending

variable {bars : List Bar} {past signals : List Signal}

/-- Leaving a nest writes line feeds only, at most one for each meter. -/
theorem onlyFeeds_farewell : OnlyFeeds (farewell bars past) := by
  cases bars with
  | nil => intro c mem; simp [farewell] at mem
  | cons outermost inner =>
    refine onlyFeeds_append (onlyFeeds_closing _ _) (onlyFeeds_join ?_)
    intro text mem
    obtain ⟨bar, _, rfl⟩ := List.mem_map.mp mem
    exact onlyFeeds_closing _ _

/-- Signals without an item are closes, and so what they write are line feeds only. -/
theorem onlyFeeds_transcript (noItem : .item ∉ signals) :
    OnlyFeeds (transcript bars past signals) := by
  induction signals generalizing past with
  | nil => intro c mem; simp [transcript] at mem
  | cons signal rest ih =>
    rw [List.mem_cons, not_or] at noItem
    refine onlyFeeds_append ?_ (ih noItem.2)
    cases signal with
    | item => exact absurd rfl noItem.1
    | close =>
      cases bars with
      | nil => intro c mem; simp [response] at mem
      | cons outermost inner => exact onlyFeeds_closing _ _

/-- A meter that has seen no item has drawn no line, so it has none to end. -/
theorem closing_of_noItem {bar : Bar} {seen : List Signal} (noItem : .item ∉ seen) :
    closing bar seen = "" := by
  have notSince : .item ∉ sinceClose seen := fun mem =>
    noItem (List.mem_reverse.mp ((List.takeWhile_sublist _).subset mem))
  exact if_neg fun h => notSince h.1

/-- A nest that no item has passed through is left without a word. -/
theorem farewell_of_noItem (noItem : .item ∉ past) : farewell bars past = "" := by
  have inside : .item ∉ seenInside past := fun mem => noItem (List.mem_filter.mp mem).1
  cases bars with
  | nil => rfl
  | cons outermost inner =>
    rw [farewell, closing_of_noItem noItem, String.empty_append]
    induction inner with
    | nil => rfl
    | cons bar rest ih =>
      rw [List.map_cons, String.join_cons, closing_of_noItem inside, String.empty_append, ih]

/-- Without an item nothing is written at all, be it closed ever so often. -/
theorem transcript_of_noItem (noItem : .item ∉ past ++ signals) :
    transcript bars past signals = "" := by
  induction signals generalizing past with
  | nil => rfl
  | cons signal rest ih =>
    have notRest : .item ∉ (past ++ [signal]) ++ rest := by
      rwa [List.append_assoc, List.singleton_append]
    rw [List.mem_append, List.mem_cons, not_or, not_or] at noItem
    obtain ⟨notPast, notSignal, _⟩ := noItem
    rw [transcript, ih notRest, String.append_empty]
    cases signal with
    | item => exact absurd rfl notSignal
    | close =>
      cases bars with
      | nil => rfl
      | cons outermost inner => exact closing_of_noItem notPast

/-- Behind the last item, the outermost meter is the first to be closed, be it by a step or by
leaving the nest. -/
theorem closes_farewell (outermost : Bar) (inner : List Bar) (past : List Signal)
    {signals : List Signal} (noItem : .item ∉ signals) :
    ∃ rest, transcript (outermost :: inner) past signals ++
      farewell (outermost :: inner) (past ++ signals) = closing outermost past ++ rest := by
  cases signals with
  | nil =>
    rw [transcript, String.empty_append, List.append_nil, farewell]
    exact ⟨_, rfl⟩
  | cons signal rest =>
    cases signal with
    | item => exact absurd List.mem_cons_self noItem
    | close =>
      rw [transcript, String.append_assoc]
      exact ⟨_, rfl⟩

/-- Signals with an item among them have a last one, and then only closes. -/
theorem exists_last_item (item : .item ∈ signals) :
    ∃ before closes, signals = before ++ .item :: closes ∧ .item ∉ closes := by
  obtain ⟨closes, before, reversed, noItem⟩ :=
    List.eq_append_cons_of_mem (List.mem_reverse.mpr item)
  refine ⟨before.reverse, closes.reverse, ?_, fun mem => noItem (List.mem_reverse.mp mem)⟩
  rw [← List.reverse_reverse signals, reversed]
  simp

/-- The last item's lines and all that follows them end a line: the outermost bar is complete and
has ended its own, or it is not and will be closed. -/
theorem endsLine_last (outermost : Bar) (inner : List Bar) (past : List Signal)
    {signals : List Signal} (noItem : .item ∉ signals) :
    EndsLine (response (outermost :: inner) past .item ++
      (transcript (outermost :: inner) (past ++ [.item]) signals ++
        farewell (outermost :: inner) (past ++ [.item] ++ signals))) := by
  refine endsLine_append (onlyFeeds_append (onlyFeeds_transcript noItem) onlyFeeds_farewell) ?_
  -- with no feed behind it, the outermost bar must have ended its own line
  intro nothing
  obtain ⟨rest, first⟩ := closes_farewell outermost inner (past ++ [.item]) noItem
  rw [first, String.append_eq_empty_iff] at nothing
  have complete : outermost.total ≤ (outermost.advance (past.count .item + 1)).current := by
    have counted : (past ++ [Signal.item]).count .item = past.count .item + 1 := by simp
    have silent := nothing.1
    rw [closing, sinceClose_item, counted] at silent
    refine Int64.not_lt.mp fun below => ?_
    rw [if_pos ⟨List.mem_cons_self, below⟩] at silent
    exact absurd silent (by decide)
  refine ⟨String.join (inner.reverse.map fun bar =>
    (bar.advance (past.count .item + 1)).drawnLine) ++
      (outermost.advance (past.count .item + 1)).line, ?_⟩
  have ended : (outermost.advance (past.count .item + 1)).drawnLine =
      (outermost.advance (past.count .item + 1)).line ++ "\n" := by
    rw [Bar.drawnLine]
    exact congrArg _ (if_pos complete)
  simp only [response, List.reverse_cons, List.map_append, List.map_cons, List.map_nil,
    String.join_append, String.join_cons, String.join_nil, String.append_empty, ended,
    String.append_assoc]

/-- **Where an item has come, the output ends a line** once the nest is left. -/
theorem endsLine_of_item (inside : bars ≠ []) (item : .item ∈ signals) :
    EndsLine (transcript bars past signals ++ farewell bars (past ++ signals)) := by
  obtain ⟨outermost, inner, rfl⟩ := List.exists_cons_of_ne_nil inside
  obtain ⟨before, closes, rfl, noItem⟩ := exists_last_item item
  obtain ⟨text, ends⟩ := endsLine_last outermost inner (past ++ before) noItem
  refine ⟨transcript (outermost :: inner) past before ++ text, ?_⟩
  rw [String.append_assoc, ← ends, transcript_append, transcript]
  simp only [String.append_assoc, List.append_assoc, List.singleton_append]

end Ending

/-! ## Runs of steps -/

namespace Nest

/-- **No meter of a nest is open**, as when they have just been put around it. -/
def Fresh (nest : Nest) : Prop := ∀ meter ∈ nest.meters, meter.isOpen = false

instance (nest : Nest) : Decidable nest.Fresh :=
  inferInstanceAs (Decidable (∀ meter ∈ nest.meters, meter.isOpen = false))

theorem fresh_bare (source : Source) : (bare source).Fresh := List.forall_mem_nil _

theorem fresh_meteredBy {nest : Nest} (fresh : nest.Fresh) (bar : Bar) :
    (nest.meteredBy bar).Fresh :=
  List.forall_mem_cons.mpr ⟨rfl, fresh⟩

/-- The meters of a fresh nest stand as they do before any signal. -/
theorem meters_of_fresh {nest : Nest} (fresh : nest.Fresh) :
    nest.meters = metersAfter nest.bars [] := by
  have alone : ∀ meter ∈ nest.meters, meter = Meter.after meter.bar [] := by
    intro meter mem
    have closed := fresh meter mem
    obtain ⟨bar, isOpen⟩ := meter
    simp only [Meter.after, List.count_nil, Bar.advance_zero]
    rw [show isOpen = false from closed]
    rfl
  rw [bars_eq_map_meters]
  generalize nest.meters = meters at alone
  cases meters with
  | nil => rfl
  | cons outermost inner =>
    obtain ⟨first, others⟩ := List.forall_mem_cons.mp alone
    rw [List.map_cons, metersAfter, List.map_map, ← first]
    congr 1
    calc
      inner = inner.map id := (List.map_id inner).symm
      _ = inner.map _ := List.map_congr_left others

/-- **Steps with a fresh nest** let its meters receive the signals from the beginning, around what
is left of the source. -/
theorem takeSteps_of_fresh {nest : Nest} (fresh : nest.Fresh) (drawable : nest.Drawable)
    (console : Console) {steps : List Step} {answers : List Answer}
    (ends : ((bare nest.source).takeSteps {} steps).1 = .ok answers) :
    ∃ (own : List Answer) (start : Nest), nest.takeSteps console steps =
        (.ok own, start.receiveAll console (nest.source.signals steps)) ∧
      start.source = nest.source.afterAll steps ∧ start.bars = nest.bars ∧
      start.meters = metersAfter nest.bars [] ∧ start.Drawable := by
  obtain ⟨own, -, walked⟩ := takeSteps_eq nest console steps ends (.inl drawable)
  exact ⟨own, _, walked, source_withSource _ _, bars_withSource _ _,
    by rw [meters_withSource, meters_of_fresh fresh], (drawable_withSource _ _).mpr drawable⟩

/-- **A run with a fresh nest**, step by step and then left: the source has gone on, the bars have
moved with the items, and the transcript and the farewell are written. -/
theorem takeSteps_prints {nest : Nest} (fresh : nest.Fresh) (drawable : nest.Drawable)
    {console : Console} (works : console.sink.Works) {steps : List Step} {answers : List Answer}
    (ends : ((bare nest.source).takeSteps {} steps).1 = .ok answers) :
    let signals := nest.source.signals steps
    ∃ own next after, nest.takeSteps console steps = (.ok own, next, after) ∧
      next.source = nest.source.afterAll steps ∧
      next.bars = nest.bars.map (·.advance (signals.count .item)) ∧
      console.Prints (transcript nest.bars [] signals) after ∧
      after.Prints (farewell nest.bars signals) (next.leave after) := by
  intro signals
  obtain ⟨own, start, walked, source, bars, stands, drawableThen⟩ :=
    takeSteps_of_fresh fresh drawable console ends
  obtain ⟨standsLast, prints⟩ := receiveAll_prints signals stands drawableThen works
  have leaves := leave_prints (start.receiveAll console signals).1 prints.works
  rw [standsLast, join_lastWord_metersAfter, List.nil_append] at leaves
  refine ⟨own, _, _, walked, ?_, ?_, prints, leaves⟩
  · rw [source_receiveAll, source]
  · rw [bars_receiveAll, bars]

/-- **What a nest of meters writes.** Take a fresh nest of at least one meter whose lines can all be
laid out, a console that works, and steps that come to their answers on the bare source. Then they
come to answers with the nest, the console has taken the transcript of the signals they sent, one
item for every item taken out, and when the nest is left also the farewell. A close behind a close
writes nothing. All in all nothing was written when no item was taken out, and otherwise the last
line is ended. -/
theorem takeSteps_writes (nest : Nest) (fresh : nest.Fresh) (inside : nest.bars ≠ [])
    (drawable : nest.Drawable) (console : Console) (works : console.sink.Works)
    (steps : List Step) (answers : List Answer)
    (ends : ((bare nest.source).takeSteps {} steps).1 = .ok answers) :
    let signals := nest.source.signals steps
    let written := transcript nest.bars [] signals
    let whole := written ++ farewell nest.bars signals
    ∃ own next after, nest.takeSteps console steps = (.ok own, next, after) ∧
      nest.source.HasGiven (signals.count .item) next.source ∧
      after.sink.taken = console.sink.taken ++ written.toUTF8 ∧
      (next.leave after).sink.taken = console.sink.taken ++ whole.toUTF8 ∧
      (∀ past, response nest.bars (past ++ [.close]) .close = "") ∧
      (whole = "" ↔ .item ∉ signals) ∧ (whole ≠ "" → EndsLine whole) := by
  intro signals written whole
  obtain ⟨own, -, walked⟩ := takeSteps_eq nest console steps ends (.inl drawable)
  cases reached : (nest.withSource (nest.source.afterAll steps)).receiveAll console signals with
  | mk next after =>
  rw [reached] at walked
  have stands : (nest.withSource (nest.source.afterAll steps)).meters =
      metersAfter nest.bars [] := by rw [meters_withSource, meters_of_fresh fresh]
  obtain ⟨standsLast, prints⟩ := receiveAll_prints signals stands
    ((drawable_withSource _ _).mpr drawable) works
  rw [reached] at standsLast prints
  have leaves := leave_prints next prints.works
  rw [standsLast, join_lastWord_metersAfter, List.nil_append] at leaves
  have given := nest.source.hasGiven_afterAll steps
  rw [← source_of_reached reached] at given
  have empty (noItem : .item ∉ signals) : whole = "" := by
    rw [show whole = written ++ farewell nest.bars signals from rfl,
      show written = "" from transcript_of_noItem noItem, farewell_of_noItem noItem]
    rfl
  have ended (item : .item ∈ signals) : EndsLine whole := endsLine_of_item inside item
  refine ⟨own, next, after, walked, given, prints.taken, (prints.trans leaves).taken, ?_, ?_, ?_⟩
  · intro past
    cases nest.bars with
    | nil => rfl
    | cons outermost rest =>
      have notSince : .item ∉ sinceClose (past ++ [.close]) := by rw [sinceClose_close]; simp
      exact if_neg fun h => notSince h.1
  · refine ⟨fun nothing item => ?_, empty⟩
    obtain ⟨before, ends⟩ := ended item
    rw [nothing] at ends
    simpa using congrArg String.toList ends
  · intro something
    exact ended (Decidable.not_not.mp fun noItem => something (empty noItem))

/-- Two items in two meters of which the outer one is complete with the second. It is closed twice
behind the first item, which ends its line once; the inner one is still unfinished when the nest is
left. -/
theorem takeSteps_writes_two_meters :
    let inner : Bar := ⟨'#', ('[', ']'), 1, 3, 0, false, false, "\x7bbar\x7d", by decide⟩
    let outer : Bar := { inner with total := 2, total_pos := by decide }
    let nest := ((bare (.items [7, 8, 9] none none)).meteredBy inner).meteredBy outer
    let steps : List Step := [.traverse (.next .back), .close, .close, .traverse (.next .front)]
    nest.Fresh ∧ nest.bars ≠ [] ∧ nest.Drawable ∧ Sink.unlimited.Works ∧
      ((bare nest.source).takeSteps {} steps).1 =
        .ok [.yield (.item (some 9)), .closed, .closed, .yield (.item (some 7))] ∧
      ∃ own next after, nest.takeSteps {} steps = (.ok own, next, after) ∧
        after.sink.taken = "[ ]\r[ ]\r\n[ ]\r[#]\n".toUTF8 ∧
        (next.leave after).sink.taken = "[ ]\r[ ]\r\n[ ]\r[#]\n\n".toUTF8 := by
  intro inner outer nest steps
  have fresh : nest.Fresh := fresh_meteredBy (fresh_meteredBy (fresh_bare _) inner) outer
  have inside : nest.bars ≠ [] := List.cons_ne_nil _ _
  have drawable : nest.Drawable := by decide
  have ends : ((bare nest.source).takeSteps {} steps).1 =
      .ok [.yield (.item (some 9)), .closed, .closed, .yield (.item (some 7))] := rfl
  obtain ⟨own, next, after, walked, -, taken, takenLeaving, -⟩ :=
    takeSteps_writes nest fresh inside drawable {} Sink.works_unlimited steps _ ends
  have signals : nest.source.signals steps = [.item, .close, .close, .item] := by decide
  have written : transcript nest.bars [] [.item, .close, .close, .item] =
      "[ ]\r[ ]\r\n[ ]\r[#]\n" := by decide +kernel
  have farewells : farewell nest.bars [.item, .close, .close, .item] = "\n" := by decide +kernel
  rw [signals, written] at taken
  rw [signals, written, farewells] at takenLeaving
  refine ⟨fresh, inside, drawable, Sink.works_unlimited, ends, own, next, after, walked, ?_, ?_⟩
  · exact taken.trans ByteArray.empty_append
  · exact takenLeaving.trans ByteArray.empty_append

end Nest

end ProgressBar.Iteration
