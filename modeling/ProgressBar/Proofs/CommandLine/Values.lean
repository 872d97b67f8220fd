import ProgressBar.CommandLine.Settings

/-!
# Values that are read back

How the value of a setting is written, and that reading it gives the value. Numbers are written in
plain decimal digits, with a minus sign below zero; a character, a pair of caps and a style stand
for themselves.

**The law**, for each kind of value: what was written is read back. Nothing is too large to be read
that a word of its kind can hold, and the least number is no exception (`readSigned_toString`).

**What it does not establish.** Other spellings of a number, with a plus sign or zeros in front, are
left aside.
-/

namespace ProgressBar

/-! ## Numbers -/

namespace Text

variable {bound sofar n : Nat} {excess : NumeralFault} {digits : List Char}

/-- Digits behind a number do not make it smaller. -/
theorem le_ofDigitChars (sofar : Nat) (digits : List Char) :
    sofar ≤ Nat.ofDigitChars 10 digits sofar := by
  induction digits generalizing sofar with
  | nil => exact Nat.le_of_eq Nat.ofDigitChars_nil.symm
  | cons c rest ih =>
    rw [Nat.ofDigitChars_cons]
    exact Nat.le_trans (by omega) (ih _)

/-- **Digits are read as the number they make**, if that keeps within the bound. Then so does every
number on the way. -/
theorem readDigits_of_le (areDigits : ∀ c ∈ digits, c.isDigit = true)
    (le : Nat.ofDigitChars 10 digits sofar ≤ bound) :
    readDigits bound excess sofar digits = .ok (Nat.ofDigitChars 10 digits sofar) := by
  induction digits generalizing sofar with
  | nil => rw [readDigits, Nat.ofDigitChars_nil]
  | cons c rest ih =>
    obtain ⟨digit, restDigits⟩ := List.forall_mem_cons.mp areDigits
    have value : digitValue? c = some (c.toNat - '0'.toNat) := if_pos digit
    rw [Nat.ofDigitChars_cons, Nat.mul_comm] at le ⊢
    have within := Nat.le_trans (le_ofDigitChars _ rest) le
    rw [readDigits, value]
    dsimp only
    rw [if_pos within]
    exact ih restDigits le

theorem isDigit_of_mem_toDigits {c : Char} (mem : c ∈ Nat.toDigits 10 n) : c.isDigit = true :=
  Nat.isDigit_of_mem_toDigits (by decide) (by decide) mem

/-- **Written digits are read back**, as long as the number keeps within the bound. -/
theorem readMagnitude_toDigits (le : n ≤ bound) :
    readMagnitude bound excess (Nat.toDigits 10 n) = .ok n := by
  have made : Nat.ofDigitChars 10 (Nat.toDigits 10 n) 0 = n := Nat.ofDigitChars_ten_toDigits
  cases written : Nat.toDigits 10 n with
  | nil => exact absurd written Nat.toDigits_ne_nil
  | cons c rest =>
    rw [written] at made
    have areDigits : ∀ d ∈ c :: rest, d.isDigit = true :=
      fun d mem => isDigit_of_mem_toDigits (written ▸ mem)
    rw [readMagnitude, readDigits_of_le areDigits (made ▸ le), made]
    exact nofun

/-- A written number begins with no sign. -/
theorem toDigits_eq_cons (n : Nat) :
    ∃ c rest, Nat.toDigits 10 n = c :: rest ∧ c ≠ '+' ∧ c ≠ '-' := by
  cases written : Nat.toDigits 10 n with
  | nil => exact absurd written Nat.toDigits_ne_nil
  | cons c rest =>
    have digit : c.isDigit = true :=
      isDigit_of_mem_toDigits (n := n) (written ▸ List.mem_cons_self)
    refine ⟨c, rest, rfl, ?_, ?_⟩ <;> rintro rfl <;> exact absurd digit (by decide)

/-- **A number without a sign is read back** from its digits, which begin with no plus that would
have to be taken off. -/
theorem readUnsigned_repr (n : UInt64) : readUnsigned n.toNat.repr = .ok n := by
  obtain ⟨c, rest, written, notPlus, -⟩ := toDigits_eq_cons n.toNat
  have read : readMagnitude (UInt64.size - 1) .tooLarge (Nat.toDigits 10 n.toNat) = .ok n.toNat :=
    readMagnitude_toDigits (Nat.le_sub_one_of_lt n.toNat_lt)
  rw [readUnsigned, Nat.toList_repr]
  rw [written] at read ⊢
  split
  · cases ‹_ = []›
  · cases ‹c :: rest = _›
    exact absurd rfl notPlus
  · rw [read]
    exact congrArg Except.ok UInt64.ofNat_toNat

/-- **A number with a sign is read back**, down to the least. -/
theorem readSigned_toString (n : Int64) : readSigned (toString n.toInt) = .ok n := by
  have low := n.le_toInt
  have high := n.toInt_lt
  have same : Int64.ofInt n.toInt = n := n.ofInt_toInt
  cases whole : n.toInt with
  | ofNat m =>
    have natural : n.toInt = (m : Int) := whole
    rw [whole] at same
    obtain ⟨c, rest, written, notPlus, notMinus⟩ := toDigits_eq_cons m
    have read : readMagnitude (1 <<< 63 - 1) .tooLarge (Nat.toDigits 10 m) = .ok m :=
      readMagnitude_toDigits (by omega)
    have text : toString (Int.ofNat m) = m.repr := rfl
    rw [readSigned, text, Nat.toList_repr]
    rw [written] at read ⊢
    split
    · cases ‹_ = []›
    · cases ‹c :: rest = _›
      exact absurd rfl notMinus
    · cases ‹c :: rest = _›
      exact absurd rfl notPlus
    · rw [read]
      exact congrArg Except.ok same
  | negSucc m =>
    rw [whole] at low high same
    have read : readMagnitude (1 <<< 63) .tooSmall (Nat.toDigits 10 (m + 1)) = .ok (m + 1) :=
      readMagnitude_toDigits (by omega)
    have text : toString (Int.negSucc m) = "-" ++ (m + 1).repr := rfl
    have chars : (toString (Int.negSucc m)).toList = '-' :: Nat.toDigits 10 (m + 1) := by
      rw [text, String.toList_append, Nat.toList_repr]
      rfl
    rw [readSigned, chars]
    simp only [read]
    exact congrArg Except.ok same

end Text

/-! ## Styles -/

/-- **A preset with its name.** -/
def Style.Preset : Type := { named : String × Style // named ∈ Style.presets }

namespace Style.Preset

/-- The name of a preset. -/
def name (preset : Preset) : String := preset.val.1

/-- The style of a preset. -/
def style (preset : Preset) : Style := preset.val.2

/-- Every style has a name of at least a character, so an empty value names none. -/
theorem name_ne_empty (preset : Preset) : preset.name.isEmpty = false := by
  have named : ∀ pair ∈ presets, pair.1.isEmpty = false := by decide
  exact named preset.val preset.property

/-- **A preset goes by its own name.** -/
theorem ofName_name (preset : Preset) : ofName preset.name = .ok preset.style := by
  have own : ∀ pair ∈ presets, presets.lookup pair.1 = some pair.2 := by decide
  have found : presets.lookup preset.name = some preset.style := own preset.val preset.property
  rw [ofName, found]

end Style.Preset

/-! ## Characters, caps and styles as values -/

namespace CommandLine

theorem readCharacter_singleton (c : Char) : readCharacter (String.singleton c) = .ok c := by
  rw [readCharacter, String.toList_singleton]

theorem readCaps_ofList (first last : Char) :
    readCaps (String.ofList [first, last]) = .ok (first, last) := by
  rw [readCaps, String.toList_ofList]

theorem readStyle_name (preset : Style.Preset) :
    readStyle preset.name = .ok preset.style := by
  rw [readStyle, preset.ofName_name]
  rfl

end CommandLine

end ProgressBar
