import ProgressBar.Proofs.Template.Occurrences

/-!
# Filling a template slot by slot

A template can also be filled in passes. A **pass** is about one slot: it goes over the whole text
from left to right and puts the slot's text wherever the slot is spelled. It goes over what earlier
passes have left, so it also sees the texts that they have filled in.

**The law** (`fillInPasses_eq_fill`): passes fill a template as a single reading does, whatever
their order, as long as the texts are **foreign** to the slots: none is empty, and none has a
character that occurs in the spelling of a slot.

After some passes the text is the template with some of its slots filled and the others still
spelled out (`partly`), and a pass fills in one slot more (`replaceAll_fill_partly`). No pass finds
a slot that is not one of the template's: a spelling would have to go on into a text that was filled
in, or into a slot that is still spelled out, and neither begins with a character that a spelling
goes on with (`prefix_of_prefix_fill`).

**What it does not establish.** With other texts the order matters. An empty text lets the
characters around it come together, and a text that spells a slot is replaced by a later pass.
-/

namespace ProgressBar.Template

/-! ## Passes -/

/-- **A pass**: wherever the slot is spelled, its text stands instead, and the pass goes on behind.
-/
def replaceAll (slot : Slot) (text : List Char) : List Char → List Char
  | [] => []
  | c :: rest =>
    if slot.spelling <+: c :: rest then
      text ++ replaceAll slot text ((c :: rest).drop slot.spelling.length)
    else c :: replaceAll slot text rest
termination_by template => template.length
decreasing_by
  · cases slot <;> simp only [Slot.spelling, List.length_drop, List.length_cons] <;> omega
  · exact Nat.lt_succ_self _

/-- **A template filled in passes**, one for each slot of a list, in the order of the list. -/
def fillInPasses (texts : Slot → List Char) (order : List Slot) (template : List Char) :
    List Char :=
  order.foldl (fun filled slot => replaceAll slot (texts slot) filled) template

/-- **A text that is foreign to the slots**: there is something in it, but no character of any
spelling. -/
structure Foreign (text : List Char) : Prop where
  nonempty : text ≠ []
  unspelled : ∀ c ∈ text, ∀ slot : Slot, c ∉ slot.spelling

instance (text : List Char) : Decidable (Foreign text) :=
  have : Decidable (∀ c ∈ text, ∀ slot : Slot, c ∉ slot.spelling) := List.decidableBAll _ text
  decidable_of_iff (text ≠ [] ∧ ∀ c ∈ text, ∀ slot : Slot, c ∉ slot.spelling)
    ⟨fun ⟨nonempty, unspelled⟩ => ⟨nonempty, unspelled⟩,
      fun foreign => ⟨foreign.nonempty, foreign.unspelled⟩⟩

section Pass

variable {slot other : Slot} {text front rest : List Char} {c : Char}

theorem replaceAll_spelling_append (slot : Slot) (text rest : List Char) :
    replaceAll slot text (slot.spelling ++ rest) = text ++ replaceAll slot text rest := by
  have read : slot.spelling <+: slot.spelling ++ rest := List.prefix_append ..
  have behind : (slot.spelling ++ rest).drop slot.spelling.length = rest := List.drop_left
  have opened : slot.spelling ++ rest = '{' :: (slot.spelling.tail ++ rest) :=
    congrArg (· ++ rest) (Slot.spelling_eq_cons slot).1
  rw [opened, replaceAll, ← opened, if_pos read, behind]

theorem replaceAll_cons_of_unread (unread : ¬ slot.spelling <+: c :: rest) :
    replaceAll slot text (c :: rest) = c :: replaceAll slot text rest := by
  rw [replaceAll, if_neg unread]

/-- **Where no brace opens, a pass changes nothing**, and it goes on unchanged behind such text. -/
theorem replaceAll_append_of_no_brace (noBrace : '{' ∉ front) :
    replaceAll slot text (front ++ rest) = front ++ replaceAll slot text rest := by
  induction front with
  | nil => rfl
  | cons c front ih =>
    rw [List.mem_cons, not_or] at noBrace
    obtain ⟨notBrace, noBrace⟩ := noBrace
    have unread : ¬ slot.spelling <+: c :: (front ++ rest) := by
      rw [(Slot.spelling_eq_cons slot).1, List.cons_prefix_cons]
      exact fun read => notBrace read.1
    rw [List.cons_append, replaceAll_cons_of_unread unread, ih noBrace, List.cons_append]

/-- **A pass leaves the other slots spelled out**: no spelling begins another, and none begins
inside of another. -/
theorem replaceAll_other_spelling (different : other ≠ slot) :
    replaceAll slot text (other.spelling ++ rest) =
      other.spelling ++ replaceAll slot text rest := by
  obtain ⟨spelled, noBrace⟩ := Slot.spelling_eq_cons other
  have unread : ¬ slot.spelling <+: other.spelling ++ rest :=
    fun read => different (Slot.eq_of_prefix (List.prefix_append ..) read)
  rw [spelled, List.cons_append] at unread ⊢
  rw [replaceAll_cons_of_unread unread, replaceAll_append_of_no_brace noBrace, List.cons_append]

end Pass

/-! ## What a pass can find -/

section Finding

variable {texts : Slot → List Char} {rest word template : List Char} {c : Char}

/-- **A word at the start of a filled template is a word of the template** when no text begins with
a character of the word: it can reach into none of them. -/
theorem prefix_of_prefix_fill
    (opens : ∀ slot, ∃ first others, texts slot = first :: others ∧ first ∉ word)
    (begins : word <+: fill texts template) : word <+: template := by
  induction template using scan_induction generalizing word with
  | nil => exact begins
  | slot slot rest ih =>
    obtain ⟨first, others, text, absent⟩ := opens slot
    rw [fill_spelling_append, text] at begins
    cases word with
    | nil => exact List.nil_prefix
    | cons d word =>
      obtain ⟨rfl, -⟩ := List.cons_prefix_cons.mp begins
      exact absurd List.mem_cons_self absent
  | literal c rest noSlot ih =>
    rw [fill_cons_of_no_slot texts noSlot] at begins
    cases word with
    | nil => exact List.nil_prefix
    | cons d word =>
      obtain ⟨rfl, goesOn⟩ := List.cons_prefix_cons.mp begins
      have opensRest : ∀ slot, ∃ first others, texts slot = first :: others ∧ first ∉ word := by
        intro slot
        obtain ⟨first, others, text, absent⟩ := opens slot
        exact ⟨first, others, text, fun mem => absent (List.mem_cons_of_mem _ mem)⟩
      exact List.cons_prefix_cons.mpr ⟨rfl, ih opensRest goesOn⟩

/-- **No slot appears that the template does not have**: none is spelled from a character on that
stands for itself. -/
theorem not_prefix_cons_fill (noSlot : ∀ slot, ¬ SlotAt (c :: rest) 0 slot)
    (opens : ∀ slot, ∃ first others, texts slot = first :: others ∧
      ∀ other : Slot, first ∉ other.spelling.tail) (slot : Slot) :
    ¬ slot.spelling <+: c :: fill texts rest := by
  intro found
  have opensTail : ∀ other, ∃ first others, texts other = first :: others ∧
      first ∉ slot.spelling.tail := by
    intro other
    obtain ⟨first, others, text, absent⟩ := opens other
    exact ⟨first, others, text, absent slot⟩
  rw [(Slot.spelling_eq_cons slot).1, List.cons_prefix_cons] at found
  obtain ⟨rfl, goesOn⟩ := found
  apply noSlot slot
  rw [SlotAt, (Slot.spelling_eq_cons slot).1, List.drop_zero, List.cons_prefix_cons]
  exact ⟨rfl, prefix_of_prefix_fill opensTail goesOn⟩

end Finding

/-! ## Templates that are partly filled -/

section Partly

variable {texts : Slot → List Char}

/-- **The texts after some passes**: the slots that had their pass are filled, the others are still
spelled out. -/
def partly (texts : Slot → List Char) (done : List Slot) (slot : Slot) : List Char :=
  if slot ∈ done then texts slot else slot.spelling

/-- However far the passes have come, what stands in a slot begins with a character that no spelling
goes on with. This is what keeps a pass from reading a slot across the border of another. -/
theorem partly_opens (foreign : ∀ slot, Foreign (texts slot)) (done : List Slot) (slot : Slot) :
    ∃ first others, partly texts done slot = first :: others ∧
      ∀ other : Slot, first ∉ other.spelling.tail := by
  by_cases isDone : slot ∈ done
  · obtain ⟨first, others, text⟩ := List.exists_cons_of_ne_nil (foreign slot).nonempty
    refine ⟨first, others, (if_pos isDone).trans text, fun other mem => ?_⟩
    exact (foreign slot).unspelled first (text ▸ List.mem_cons_self) other
      (List.mem_of_mem_tail mem)
  · -- A slot that is still spelled out opens with the one character no spelling goes on with.
    refine ⟨'{', slot.spelling.tail, (if_neg isDone).trans (Slot.spelling_eq_cons slot).1, ?_⟩
    exact fun other => (Slot.spelling_eq_cons other).2

/-- What a pass makes of a slot, filled or not. -/
theorem replaceAll_partly_append (foreign : ∀ slot, Foreign (texts slot)) (done : List Slot)
    (slot other : Slot) (rest : List Char) :
    replaceAll slot (texts slot) (partly texts done other ++ rest) =
      partly texts (slot :: done) other ++ replaceAll slot (texts slot) rest := by
  by_cases isDone : other ∈ done
  · have noBrace : '{' ∉ texts other :=
      fun mem => (foreign other).unspelled '{' mem .bar (by decide)
    rw [partly, partly, if_pos isDone, if_pos (List.mem_cons_of_mem slot isDone),
      replaceAll_append_of_no_brace noBrace]
  · by_cases same : other = slot
    · subst same
      rw [partly, partly, if_neg isDone, if_pos List.mem_cons_self, replaceAll_spelling_append]
    · have notNow : other ∉ slot :: done := by
        rw [List.mem_cons, not_or]
        exact ⟨same, isDone⟩
      rw [partly, partly, if_neg isDone, if_neg notNow, replaceAll_other_spelling same]

/-- **A pass fills in its slot** and leaves everything else as it was, those slots included that
were filled before. -/
theorem replaceAll_fill_partly (foreign : ∀ slot, Foreign (texts slot)) (done : List Slot)
    (slot : Slot) (template : List Char) :
    replaceAll slot (texts slot) (fill (partly texts done) template) =
      fill (partly texts (slot :: done)) template := by
  induction template using scan_induction with
  | nil => exact replaceAll.eq_1 ..
  | slot other rest ih =>
    rw [fill_spelling_append, fill_spelling_append, replaceAll_partly_append foreign, ih]
  | literal c rest noSlot ih =>
    have unread := not_prefix_cons_fill noSlot (partly_opens foreign done) slot
    rw [fill_cons_of_no_slot _ noSlot, fill_cons_of_no_slot _ noSlot,
      replaceAll_cons_of_unread unread, ih]

/-- **Several passes fill in their slots**, in the order in which they are made; the induction is on
the passes that are left. -/
theorem fillInPasses_fill_partly (foreign : ∀ slot, Foreign (texts slot)) (order done : List Slot)
    (template : List Char) :
    fillInPasses texts order (fill (partly texts done) template) =
      fill (partly texts (order.reverse ++ done)) template := by
  induction order generalizing done with
  | nil => rfl
  | cons slot order ih =>
    rw [fillInPasses, List.foldl_cons, replaceAll_fill_partly foreign, List.reverse_cons,
      List.append_assoc, List.singleton_append]
    exact ih (slot :: done)

/-- Before the first pass all slots are still spelled out, and the text is the template. -/
theorem fill_partly_nil (texts : Slot → List Char) (template : List Char) :
    fill (partly texts []) template = template := by
  have spelled : Piece.text (partly texts []) = Piece.spelling := by
    funext piece
    cases piece <;> rfl
  rw [fill, spelled, spelling_pieces]

end Partly

/-- **Passes fill a template like a single reading.** Take any template, and for each slot a text
that is foreign to the slots. In whatever order the slots have their passes, provided that every
slot has one, the template comes out as if it had been read once from the left. The order may be any
of the six in which each slot has one pass; a second pass of a slot changes nothing. -/
theorem fillInPasses_eq_fill (template : List Char) (texts : Slot → List Char)
    (foreign : ∀ slot, Foreign (texts slot)) (order : List Slot)
    (complete : ∀ slot, slot ∈ order) :
    fillInPasses texts order template = fill texts template := by
  have filled : partly texts (order.reverse ++ []) = texts := by
    funext slot
    exact if_pos (List.mem_append_left _ (List.mem_reverse.mpr (complete slot)))
  calc fillInPasses texts order template
      = fillInPasses texts order (fill (partly texts []) template) := by rw [fill_partly_nil]
    _ = fill (partly texts (order.reverse ++ [])) template :=
      fillInPasses_fill_partly foreign order [] template
    _ = fill texts template := by rw [filled]

/-- Braces that open no slot around a slot, and slots that touch. -/
theorem fillInPasses_eq_fill_odd_braces :
    let template := "\x7bper\x7bbar\x7dcent\x7d \x7b\x7bcount\x7d\x7d\x7bpercent\x7d".toList
    let texts : Slot → List Char
      | .bar => "[#]".toList
      | .percent => "50%".toList
      | .count => "2/4".toList
    (∀ slot, Foreign (texts slot)) ∧ (∀ slot, slot ∈ [Slot.count, .bar, .percent]) ∧
      fillInPasses texts [.count, .bar, .percent] template =
        "\x7bper[#]cent\x7d \x7b2/4\x7d50%".toList := by
  intro template texts
  have foreign : ∀ slot, Foreign (texts slot) := by decide
  have complete : ∀ slot, slot ∈ [Slot.count, .bar, .percent] := by decide
  exact ⟨foreign, complete,
    (fillInPasses_eq_fill template texts foreign _ complete).trans (by decide)⟩

/-- An empty text lets a slot come together around it, and a later pass fills that in. -/
example :
    let template := "\x7bper\x7bbar\x7dcent\x7d".toList
    let texts (slot : Slot) := if slot = .bar then [] else ['9']
    fillInPasses texts [.bar, .percent, .count] template = ['9'] ∧
      fill texts template = "\x7bpercent\x7d".toList := by
  cbv

end ProgressBar.Template
