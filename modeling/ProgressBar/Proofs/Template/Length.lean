import ProgressBar.Proofs.Template.Occurrences

/-!
# How long a filled template is

To fill a template is to change its length at the places of its slots alone: there a text stands
instead of a spelling. So the length can be told without filling, by counting the places at which
each slot stands.

**The law** (`length_fill`): a filled template has the length of the template and, for each slot,
what it **gains** there: as many times as the slot stands in the template, the length of its text
less that of its spelling. A text may be the shorter one, so a gain is an integer.

The count is one of positions (`SlotAt`) and knows nothing of a reading from the left. The induction
is along that reading all the same (`scan_induction`): a slot that is read counts one place more of
this slot and none of the others, and a character that stands for itself counts none, whatever
braces there are around it.
-/

namespace ProgressBar.Template

/-! ## Counting places -/

/-- **How many times a slot stands** in a template: the number of positions at which it does. -/
def occurrences (template : List Char) (slot : Slot) : Nat :=
  (List.range template.length).countP fun position => SlotAt template position slot

variable {texts longer : Slot → List Char} {rest : List Char}

/-- **Places are counted in two parts**: those that start in some text, and those of the rest. -/
theorem occurrences_append (front rest : List Char) (slot : Slot) :
    occurrences (front ++ rest) slot =
      (List.range front.length).countP (fun start => SlotAt (front ++ rest) start slot) +
        occurrences rest slot := by
  rw [occurrences, List.length_append, List.range_add, List.countP_append, List.countP_map,
    occurrences]
  simp only [Function.comp_def, slotAt_append]

/-- **A slot that is read** is one place more at which this slot stands, and no other does. -/
theorem occurrences_spelling_append (read slot : Slot) (rest : List Char) :
    occurrences (read.spelling ++ rest) slot =
      occurrences rest slot + if read = slot then 1 else 0 := by
  have start : SlotAt (read.spelling ++ rest) 0 slot ↔ read = slot := by
    constructor
    · exact fun stands => Slot.eq_of_prefix (slotAt_spelling read rest) stands
    · rintro rfl
      exact slotAt_spelling read rest
  have inside : (List.range read.spelling.tail.length).countP
      (fun position => SlotAt (read.spelling ++ rest) (position + 1) slot) = 0 := by
    rw [List.countP_eq_zero]
    intro position mem
    rw [decide_eq_true_iff]
    exact (covered_spelling_append read rest (List.mem_range.mp mem)).not_slotAt
  rw [occurrences_append, Slot.length_spelling, List.range_succ_eq_map, List.countP_cons,
    List.countP_map]
  simp only [Function.comp_def, Nat.succ_eq_add_one, inside, start, decide_eq_true_iff]
  omega

/-- **A character that stands for itself** is no place of a slot. -/
theorem occurrences_cons_of_no_slot {c : Char} (noSlot : ∀ slot, ¬ SlotAt (c :: rest) 0 slot)
    (slot : Slot) : occurrences (c :: rest) slot = occurrences rest slot := by
  have split := occurrences_append [c] rest slot
  rw [List.singleton_append, List.length_singleton, List.range_one, List.countP_singleton] at split
  simpa only [noSlot slot, decide_false, Bool.false_eq_true, if_false, Nat.zero_add] using split

/-! ## Gains -/

/-- **What a template gains at the places of a slot** when they are filled. -/
def gain (texts : Slot → List Char) (template : List Char) (slot : Slot) : Int :=
  occurrences template slot * ((texts slot).length - slot.spelling.length)

theorem gain_nil (slot : Slot) : gain texts [] slot = 0 :=
  Int.zero_mul _

/-- A slot at the front gains the difference between its text and its spelling, and every other slot
gains what it does behind. -/
theorem gain_spelling_append (read slot : Slot) (rest : List Char) :
    gain texts (read.spelling ++ rest) slot =
      gain texts rest slot +
        if read = slot then ((texts slot).length : Int) - slot.spelling.length else 0 := by
  rw [gain, occurrences_spelling_append, gain]
  by_cases same : read = slot
  · rw [if_pos same, if_pos same, Int.natCast_add, Int.add_mul, Int.natCast_one, Int.one_mul]
  · rw [if_neg same, if_neg same, Nat.add_zero, Int.add_zero]

/-- A character at which no slot stands is neither a gain nor a loss. -/
theorem gain_cons_of_no_slot {c : Char} (noSlot : ∀ slot, ¬ SlotAt (c :: rest) 0 slot)
    (slot : Slot) : gain texts (c :: rest) slot = gain texts rest slot := by
  rw [gain, occurrences_cons_of_no_slot noSlot, gain]

/-- **The length of a filled template** is that of the template and what it gains at its slots. -/
theorem length_fill (texts : Slot → List Char) (template : List Char) :
    ((fill texts template).length : Int) =
      template.length + gain texts template .bar + gain texts template .percent +
        gain texts template .count := by
  induction template using scan_induction with
  | nil =>
    simp only [gain_nil]
    rfl
  | slot read rest ih =>
    rw [fill_spelling_append, List.length_append, List.length_append]
    simp only [gain_spelling_append]
    -- one of the three gains grows, by the text that was read less its spelling
    cases read <;> simp only [reduceCtorEq, if_true, if_false] <;> omega
  | literal c rest noSlot ih =>
    rw [fill_cons_of_no_slot texts noSlot, List.length_cons, List.length_cons]
    simp only [gain_cons_of_no_slot noSlot]
    omega

/-- A longer text is no smaller a gain, as often as its slot stands. -/
theorem gain_mono {slot : Slot} (le : (texts slot).length ≤ (longer slot).length)
    (template : List Char) : gain texts template slot ≤ gain longer template slot :=
  Int.mul_le_mul_of_nonneg_left (by omega) (Int.natCast_nonneg _)

/-- **Longer texts make no shorter a template**, as every slot counts as often in the one as in the
other. -/
theorem length_fill_mono (le : ∀ slot, (texts slot).length ≤ (longer slot).length)
    (template : List Char) : (fill texts template).length ≤ (fill longer template).length := by
  have length := length_fill texts template
  have lengthLonger := length_fill longer template
  have bar := gain_mono (le .bar) template
  have percent := gain_mono (le .percent) template
  have count := gain_mono (le .count) template
  omega

end ProgressBar.Template
