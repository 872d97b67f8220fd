import ProgressBar.Template

/-!
# Where the slots of a template are

A template is filled in by reading it from the left. Here its slots are found without reading it: a
slot **stands at** a position when its spelling is what the template goes on with there, and a
position is **covered** when it belongs to a slot that starts before it. Whether that is so depends
on the template alone.

**The law** (`fill_by_position`): no two slots share a position, and a filled template is what
stands at its positions, one after the other: the text of a slot where the slot starts, nothing
where it covers, and the template's own character elsewhere. So every slot is filled, whatever
braces stand before it, and a text that was filled in is not looked at again.

The proof follows the reading from the left (`scan_induction`). What has been read never holds the
start of a slot that goes on behind it, so the rest can be looked at on its own.
-/

namespace ProgressBar

/-! ## Spellings -/

namespace Slot

variable {a b slot : Slot}

theorem exists_iff {p : Slot → Prop} : (∃ slot, p slot) ↔ p .bar ∨ p .percent ∨ p .count := by
  constructor
  · rintro ⟨slot, holds⟩
    cases slot with
    | bar => exact .inl holds
    | percent => exact .inr (.inl holds)
    | count => exact .inr (.inr holds)
  · rintro (holds | holds | holds) <;> exact ⟨_, holds⟩

theorem forall_iff {p : Slot → Prop} : (∀ slot, p slot) ↔ p .bar ∧ p .percent ∧ p .count := by
  constructor
  · exact fun holds => ⟨holds .bar, holds .percent, holds .count⟩
  · rintro ⟨bar, percent, count⟩ slot
    cases slot with
    | bar => exact bar
    | percent => exact percent
    | count => exact count

instance {p : Slot → Prop} [DecidablePred p] : Decidable (∃ slot, p slot) :=
  decidable_of_iff _ exists_iff.symm

instance {p : Slot → Prop} [DecidablePred p] : Decidable (∀ slot, p slot) :=
  decidable_of_iff _ forall_iff.symm

/-- **A spelling begins with a brace** and has no other. -/
theorem spelling_eq_cons (slot : Slot) :
    slot.spelling = '{' :: slot.spelling.tail ∧ '{' ∉ slot.spelling.tail := by
  cases slot <;> decide

theorem length_spelling (slot : Slot) : slot.spelling.length = slot.spelling.tail.length + 1 :=
  congrArg List.length slot.spelling_eq_cons.1

/-- **No spelling begins another**, so at most one of them can be read. -/
theorem eq_of_prefix {text : List Char} (first : a.spelling <+: text)
    (second : b.spelling <+: text) : a = b := by
  rcases List.prefix_or_prefix_of_prefix first second with shorter | shorter
  · revert shorter; cases a <;> cases b <;> decide
  · revert shorter; cases a <;> cases b <;> decide

end Slot

namespace Template

/-! ## Positions -/

/-- **A slot stands at a position** of a template: its spelling is read there. -/
def SlotAt (template : List Char) (position : Nat) (slot : Slot) : Prop :=
  slot.spelling <+: template.drop position

instance (template : List Char) (position : Nat) (slot : Slot) :
    Decidable (SlotAt template position slot) :=
  inferInstanceAs (Decidable (_ <+: _))

/-- **The slot that stands at a position.** -/
def slotAt? (template : List Char) (position : Nat) : Option Slot :=
  [Slot.bar, .percent, .count].find? fun slot => SlotAt template position slot

/-- **A position is covered** by a slot that starts before it and ends behind it. -/
def Covered (template : List Char) (position : Nat) : Prop :=
  ∃ start < position, ∃ slot, SlotAt template start slot ∧
    position < start + slot.spelling.length

instance (template : List Char) (position : Nat) : Decidable (Covered template position) :=
  inferInstanceAs (Decidable (∃ start < position, _))

/-- **What stands at a position** of a filled template. -/
def textAt (texts : Slot → List Char) (template : List Char) (position : Nat) : List Char :=
  match slotAt? template position with
  | some slot => texts slot
  | none => if Covered template position then [] else template[position]?.toList

section Positions

variable {template front rest : List Char} {i j position : Nat} {a b slot : Slot}

theorem slotAt_of_slotAt? (found : slotAt? template position = some slot) :
    SlotAt template position slot := by
  rw [slotAt?] at found
  have chosen := List.find?_some found
  exact of_decide_eq_true chosen

/-- The slot that is found at a position is the one that stands there. -/
theorem slotAt?_eq_some_iff :
    slotAt? template position = some slot ↔ SlotAt template position slot := by
  refine ⟨slotAt_of_slotAt?, fun stands => ?_⟩
  cases found : slotAt? template position with
  | none =>
    have passedOver := List.find?_eq_none.mp found slot (by cases slot <;> decide)
    exact absurd (decide_eq_true stands) passedOver
  | some other => rw [Slot.eq_of_prefix (slotAt_of_slotAt? found) stands]

theorem slotAt?_eq_none_iff :
    slotAt? template position = none ↔ ∀ slot, ¬ SlotAt template position slot := by
  rw [← Option.not_isSome_iff_eq_none, Option.isSome_iff_exists]
  simp only [slotAt?_eq_some_iff, not_exists]

/-- The characters of a slot are those of the template from its start on. -/
theorem SlotAt.getElem? (stands : SlotAt template i slot) (inside : j < slot.spelling.length) :
    template[i + j]? = slot.spelling[j]? := by
  rw [← List.getElem?_drop, List.getElem?_eq_getElem inside]
  exact List.prefix_iff_getElem?.mp stands j inside

/-- A slot begins with an opening brace, and has none further in. That is why slots cannot overlap.
-/
theorem SlotAt.brace (stands : SlotAt template i slot) : template[i]? = some '{' := by
  have start := stands.getElem? (j := 0) (by cases slot <;> decide)
  rw [(Slot.spelling_eq_cons slot).1] at start
  exact start

/-- Behind the start of a slot there is no brace as far as the slot goes. -/
theorem SlotAt.no_brace (stands : SlotAt template i slot) (after : i < j)
    (inside : j < i + slot.spelling.length) : template[j]? ≠ some '{' := by
  obtain ⟨spelled, noBrace⟩ := Slot.spelling_eq_cons slot
  obtain ⟨k, rfl⟩ : ∃ k, j = i + (k + 1) := ⟨j - i - 1, by omega⟩
  rw [stands.getElem? (by omega), spelled, List.getElem?_cons_succ]
  exact fun brace => noBrace (List.mem_of_getElem? brace)

/-- **A slot ends before a later one starts**, since the brace of the later one is none of its
characters. -/
theorem SlotAt.end_le (first : SlotAt template i a) (second : SlotAt template j b)
    (before : i < j) : i + a.spelling.length ≤ j := by
  apply Nat.le_of_not_lt
  intro inside
  exact first.no_brace before inside second.brace

/-- **Slots do not overlap**: of any two one ends before the other starts. -/
theorem SlotAt.disjoint (first : SlotAt template i a) (second : SlotAt template j b)
    (distinct : (i, a) ≠ (j, b)) :
    i + a.spelling.length ≤ j ∨ j + b.spelling.length ≤ i := by
  rcases Nat.lt_trichotomy i j with before | rfl | after
  · exact .inl (first.end_le second before)
  · rw [Slot.eq_of_prefix first second] at distinct
    exact absurd rfl distinct
  · exact .inr (second.end_le first after)

/-- A covered position holds no brace, so no slot stands there. -/
theorem Covered.not_slotAt (covered : Covered template position) :
    ¬ SlotAt template position slot := by
  obtain ⟨start, before, other, stands, inside⟩ := covered
  exact fun here => stands.no_brace before inside here.brace

/-! ## What has been read, and the rest -/

/-- What stands behind some text does not depend on it. -/
theorem slotAt_append : SlotAt (front ++ rest) (front.length + i) slot ↔ SlotAt rest i slot := by
  rw [SlotAt, SlotAt, List.drop_length_add_append]

/-- **Text is closed** before a rest when no slot starts in it that goes on into the rest. -/
def Closed (front rest : List Char) : Prop :=
  ∀ start < front.length, ∀ slot, SlotAt (front ++ rest) start slot →
    start + slot.spelling.length ≤ front.length

/-- Behind a closed front, positions are covered as they are in the rest alone. -/
theorem covered_append (closed : Closed front rest) :
    Covered (front ++ rest) (front.length + i) ↔ Covered rest i := by
  constructor
  · rintro ⟨start, before, slot, stands, inside⟩
    by_cases read : start < front.length
    · have ended := closed start read slot stands
      omega
    · obtain ⟨k, rfl⟩ : ∃ k, start = front.length + k := ⟨start - front.length, by omega⟩
      exact ⟨k, by omega, slot, slotAt_append.mp stands, by omega⟩
  · rintro ⟨start, before, slot, stands, inside⟩
    exact ⟨front.length + start, by omega, slot, slotAt_append.mpr stands, by omega⟩

/-- **Behind closed text everything stands as in the rest alone**: no slot reaches over the border.
-/
theorem textAt_append (texts : Slot → List Char) (closed : Closed front rest) :
    textAt texts (front ++ rest) (front.length + i) = textAt texts rest i := by
  have slots : slotAt? (front ++ rest) (front.length + i) = slotAt? rest i := by
    simp only [slotAt?, slotAt_append]
  have own : (front ++ rest)[front.length + i]? = rest[i]? := by
    rw [List.getElem?_append_right (Nat.le_add_right ..), Nat.add_sub_cancel_left]
  rw [textAt, textAt, slots, own]
  simp only [covered_append closed]

theorem slotAt_spelling (slot : Slot) (rest : List Char) :
    SlotAt (slot.spelling ++ rest) 0 slot :=
  List.prefix_append ..

/-- A slot that is read covers the positions behind its start. -/
theorem covered_spelling_append (slot : Slot) (rest : List Char)
    (inside : position < slot.spelling.tail.length) :
    Covered (slot.spelling ++ rest) (position + 1) := by
  refine ⟨0, Nat.succ_pos _, slot, slotAt_spelling slot rest, ?_⟩
  rw [slot.length_spelling]
  omega

/-- The spelling of a slot is closed: no slot begins in it and ends behind it. -/
theorem closed_spelling (slot : Slot) (rest : List Char) : Closed slot.spelling rest := by
  intro start inside other stands
  rcases Nat.eq_zero_or_pos start with rfl | later
  · rw [Slot.eq_of_prefix stands (slotAt_spelling slot rest)]
    exact Nat.le_of_eq (Nat.zero_add _)
  · exact absurd stands.brace
      ((slotAt_spelling slot rest).no_brace later (by omega))

/-- A character at which no slot stands is closed by itself. -/
theorem closed_singleton {c : Char} (noSlot : ∀ slot, ¬ SlotAt (c :: rest) 0 slot) :
    Closed [c] rest := by
  intro start inside slot stands
  obtain rfl : start = 0 := Nat.lt_one_iff.mp inside
  exact absurd stands (noSlot slot)

end Positions

/-! ## Reading from the left -/

/-- Where the spelling of a slot is next, the scan finds the slot and goes on behind it. -/
theorem pieces_spelling_append (slot : Slot) (rest : List Char) :
    pieces (slot.spelling ++ rest) = .slot slot :: pieces rest := by
  cases slot <;> rfl

/-- Where no slot is next, the scan takes one character as it is. -/
theorem pieces_cons_of_no_slot {c : Char} {rest : List Char}
    (noSlot : ∀ slot, ¬ SlotAt (c :: rest) 0 slot) :
    pieces (c :: rest) = .literal c :: pieces rest := by
  have notRead (slot : Slot) (tail : List Char) : c :: rest ≠ slot.spelling ++ tail :=
    fun read => noSlot slot ⟨tail, read.symm⟩
  apply pieces.eq_4
  · rintro tail rfl rfl
    exact notRead .bar tail rfl
  · rintro tail rfl rfl
    exact notRead .percent tail rfl
  · rintro tail rfl rfl
    exact notRead .count tail rfl

/-- **Induction along the reading of a template.** A template is empty, or begins with the spelling
of a slot, which is read, or with a character at which no slot stands, which is taken alone; and the
rest is read in the same way. -/
@[elab_as_elim]
theorem scan_induction {motive : List Char → Prop} (nil : motive [])
    (slot : ∀ (slot : Slot) rest, motive rest → motive (slot.spelling ++ rest))
    (literal : ∀ c rest, (∀ slot, ¬ SlotAt (c :: rest) 0 slot) → motive rest → motive (c :: rest))
    (template : List Char) : motive template := by
  induction size : template.length using Nat.strongRecOn generalizing template with
  | ind n ih =>
    subst size
    by_cases found : ∃ slot, SlotAt template 0 slot
    · obtain ⟨first, rest, rfl⟩ := found
      have shorter : rest.length < (first.spelling ++ rest).length := by
        rw [List.length_append, (Slot.spelling_eq_cons first).1, List.length_cons]
        omega
      exact slot first rest (ih rest.length shorter rest rfl)
    · cases template with
      | nil => exact nil
      | cons c rest =>
        exact literal c rest (not_exists.mp found) (ih rest.length (Nat.lt_succ_self _) rest rfl)

section Fill

variable (texts : Slot → List Char) {front rest : List Char}

theorem fill_spelling_append (slot : Slot) (rest : List Char) :
    fill texts (slot.spelling ++ rest) = texts slot ++ fill texts rest := by
  rw [fill, pieces_spelling_append, List.flatMap_cons]
  rfl

theorem fill_cons_of_no_slot {c : Char} (noSlot : ∀ slot, ¬ SlotAt (c :: rest) 0 slot) :
    fill texts (c :: rest) = c :: fill texts rest := by
  rw [fill, pieces_cons_of_no_slot noSlot, List.flatMap_cons]
  rfl

/-- What stands at all positions of a filled template, one after the other. -/
def textOf (texts : Slot → List Char) (template : List Char) : List Char :=
  (List.range template.length).flatMap (textAt texts template)

/-- **Closed text and the rest stand side by side**, each told by its own positions. -/
theorem textOf_append (closed : Closed front rest) :
    textOf texts (front ++ rest) =
      (List.range front.length).flatMap (textAt texts (front ++ rest)) ++ textOf texts rest := by
  rw [textOf, List.length_append, List.range_add, List.flatMap_append, List.flatMap_map]
  simp only [textAt_append texts closed, textOf]

theorem textAt_of_slotAt {template : List Char} {position : Nat} {slot : Slot}
    (stands : SlotAt template position slot) : textAt texts template position = texts slot := by
  rw [textAt, slotAt?_eq_some_iff.mpr stands]

/-- The places that a slot covers behind its first one add nothing of their own. -/
theorem textAt_of_covered {template : List Char} {position : Nat}
    (covered : Covered template position) : textAt texts template position = [] := by
  rw [textAt, slotAt?_eq_none_iff.mpr fun _ => covered.not_slotAt]
  exact if_pos covered

theorem textAt_of_no_slot {template : List Char} {position : Nat}
    (noSlot : ∀ slot, ¬ SlotAt template position slot) (uncovered : ¬ Covered template position) :
    textAt texts template position = template[position]?.toList := by
  rw [textAt, slotAt?_eq_none_iff.mpr noSlot]
  exact if_neg uncovered

/-- Where a slot is read, its text stands at the start and nothing at the positions it covers. -/
theorem textOf_spelling_append (slot : Slot) (rest : List Char) :
    textOf texts (slot.spelling ++ rest) = texts slot ++ textOf texts rest := by
  have covers : ∀ position ∈ List.range slot.spelling.tail.length,
      textAt texts (slot.spelling ++ rest) (position + 1) = [] := by
    intro position mem
    exact textAt_of_covered texts (covered_spelling_append slot rest (List.mem_range.mp mem))
  rw [textOf_append texts (closed_spelling slot rest), slot.length_spelling,
    List.range_succ_eq_map, List.flatMap_cons, List.flatMap_map,
    List.flatMap_eq_nil_iff.mpr covers, textAt_of_slotAt texts (slotAt_spelling slot rest),
    List.append_nil]

/-- Positions behind a character at which no slot stands are told by the rest alone. -/
theorem textOf_cons_of_no_slot {c : Char} (noSlot : ∀ slot, ¬ SlotAt (c :: rest) 0 slot) :
    textOf texts (c :: rest) = c :: textOf texts rest := by
  have uncovered : ¬ Covered (c :: rest) 0 :=
    fun ⟨_, before, _⟩ => absurd before (Nat.not_lt_zero _)
  have own : textAt texts (c :: rest) 0 = [c] := textAt_of_no_slot texts noSlot uncovered
  have split := textOf_append texts (closed_singleton noSlot)
  rw [List.singleton_append] at split
  rw [split, List.length_singleton, List.range_one, List.flatMap_singleton, own]
  rfl

/-- **What the reading from the left fills in is what stands at the positions.** -/
theorem fill_eq_textOf (template : List Char) : fill texts template = textOf texts template := by
  induction template using scan_induction with
  | nil => rfl
  | slot slot rest ih => rw [fill_spelling_append, textOf_spelling_append, ih]
  | literal c rest noSlot ih =>
    rw [fill_cons_of_no_slot texts noSlot, textOf_cons_of_no_slot texts noSlot, ih]

end Fill

/-- **A template is filled position by position.** Take any template and any texts for its slots.
Slots that stand at two places of the template, or are different, have no position in common. The
filled template is what stands at the positions from left to right: the text of a slot where the
slot starts, nothing at the other positions of the slot, and the template's own character at a
position of no slot. -/
theorem fill_by_position (template : List Char) (texts : Slot → List Char) :
    (∀ i j a b, SlotAt template i a → SlotAt template j b → (i, a) ≠ (j, b) →
        i + a.spelling.length ≤ j ∨ j + b.spelling.length ≤ i) ∧
      fill texts template = (List.range template.length).flatMap (textAt texts template) ∧
      (∀ i slot, SlotAt template i slot → textAt texts template i = texts slot) ∧
      (∀ i, Covered template i → textAt texts template i = []) ∧
      ∀ i c, template[i]? = some c → (∀ slot, ¬ SlotAt template i slot) → ¬ Covered template i →
        textAt texts template i = [c] := by
  refine ⟨fun i j a b first second distinct => first.disjoint second distinct,
    fill_eq_textOf texts template, fun i slot stands => textAt_of_slotAt texts stands,
    fun i covered => textAt_of_covered texts covered, ?_⟩
  intro i c own noSlot uncovered
  rw [textAt_of_no_slot texts noSlot uncovered, own]
  rfl

/-- A brace that opens no slot, a slot behind it, and a text for it that looks like a slot. -/
theorem fill_by_position_open_brace :
    let template := "\x7bba\x7bbar\x7d\x7d".toList
    let texts (slot : Slot) := if slot = .bar then "\x7bcount\x7d".toList else ['#']
    SlotAt template 3 .bar ∧ Covered template 5 ∧ textAt texts template 3 = texts .bar ∧
      textAt texts template 5 = [] ∧ textAt texts template 0 = ['{'] ∧
      fill texts template = "\x7bba\x7bcount\x7d\x7d".toList := by
  intro template texts
  have stands : SlotAt template 3 .bar := by decide
  have covered : Covered template 5 := by decide
  have noSlot : ∀ slot, ¬ SlotAt template 0 slot := by
    intro slot
    cases slot <;> decide
  obtain ⟨-, filled, read, nothing, own⟩ := fill_by_position template texts
  exact ⟨stands, covered, read 3 .bar stands, nothing 5 covered,
    own 0 '{' rfl noSlot (by decide), filled.trans (by decide)⟩

end Template

end ProgressBar
