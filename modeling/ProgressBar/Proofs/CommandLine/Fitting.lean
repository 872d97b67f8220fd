import ProgressBar.Proofs.CommandLine.Values

/-!
# Which values fit

Every setting has values of its own kind, and texts that mean them (`Setting.Means`): a numeral in
decimal digits, with a sign or without, that keeps within 64 bits; a single character; two of them;
the name of a preset; any text at all. A text **fits** a setting when it means one of its values.

**The law** (`Entries.enter_of_means`, `Entries.enter_of_wrong`): a setting that is new is entered
with the value its text means, and a setting that was said before is refused, or one whose text does
not fit.

**What it does not establish.** With which words a text is refused is left aside.
-/

namespace ProgressBar

/-! ## Numerals -/

namespace Text

variable {bound sofar n : Nat} {excess : NumeralFault} {digits : List Char}

/-- **Decimal digits of a number**, of which there is at least one. Zeros in front do not matter. -/
structure Decimal (digits : List Char) (n : Nat) : Prop where
  nonempty : digits ≠ []
  areDigits : ∀ c ∈ digits, c.isDigit = true
  value : Nat.ofDigitChars 10 digits 0 = n

/-- **A numeral without negative numbers**: digits, perhaps behind a plus sign. -/
def WritesUnsigned (text : String) (n : UInt64) : Prop :=
  ∃ digits, Decimal digits n.toNat ∧ (text.toList = digits ∨ text.toList = '+' :: digits)

/-- **A numeral with negative numbers**: digits, perhaps behind a sign. -/
def WritesSigned (text : String) (n : Int64) : Prop :=
  ∃ digits m, Decimal digits m ∧
    (text.toList = digits ∧ n.toInt = m ∨ text.toList = '+' :: digits ∧ n.toInt = m ∨
      text.toList = '-' :: digits ∧ n.toInt = -m)

/-- **Reading digits succeeds exactly for digits** whose number keeps within the bound. The bound is
looked at after every digit; as the number only grows, that comes to looking once at the end. -/
theorem readDigits_eq_ok_iff :
    readDigits bound excess sofar digits = .ok n ↔
      (∀ c ∈ digits, c.isDigit = true) ∧ Nat.ofDigitChars 10 digits sofar = n ∧
        (digits ≠ [] → n ≤ bound) := by
  constructor
  · intro read
    induction digits generalizing sofar with
    | nil =>
      cases read
      exact ⟨nofun, Nat.ofDigitChars_nil, fun nonempty => absurd rfl nonempty⟩
    | cons c rest ih =>
      rw [readDigits] at read
      by_cases digit : c.isDigit = true
      · rw [digitValue?, if_pos digit] at read
        dsimp only at read
        split at read
        · rename_i within
          obtain ⟨areDigits, value, le⟩ := ih read
          rw [Nat.mul_comm, ← Nat.ofDigitChars_cons] at value
          refine ⟨List.forall_mem_cons.mpr ⟨digit, areDigits⟩, value, fun _ => ?_⟩
          cases rest with
          | nil =>
            rw [Nat.ofDigitChars_cons, Nat.ofDigitChars_nil, Nat.mul_comm] at value
            exact value ▸ within
          | cons d more => exact le (List.cons_ne_nil d more)
        · cases read
      · rw [digitValue?, if_neg digit] at read
        cases read
  · rintro ⟨areDigits, value, le⟩
    cases digits with
    | nil => exact congrArg Except.ok (Nat.ofDigitChars_nil.symm.trans value)
    | cons c rest =>
      rw [readDigits_of_le areDigits (value.symm ▸ le (List.cons_ne_nil c rest)), value]

/-- Digits without a sign are read exactly if there are some and their number keeps within the
bound; leading zeros are no harm. -/
theorem readMagnitude_eq_ok_iff :
    readMagnitude bound excess digits = .ok n ↔ Decimal digits n ∧ n ≤ bound := by
  cases digits with
  | nil =>
    constructor
    · intro read
      cases read
    · rintro ⟨decimal, -⟩
      exact absurd rfl decimal.nonempty
  | cons c rest =>
    have nonempty : c :: rest ≠ [] := List.cons_ne_nil c rest
    have step : readMagnitude bound excess (c :: rest) =
        readDigits bound excess 0 (c :: rest) := rfl
    rw [step, readDigits_eq_ok_iff]
    constructor
    · rintro ⟨areDigits, value, le⟩
      exact ⟨⟨nonempty, areDigits, value⟩, le nonempty⟩
    · rintro ⟨decimal, le⟩
      exact ⟨decimal.areDigits, decimal.value, fun _ => le⟩

/-- Digits do not begin with a sign. -/
theorem Decimal.head_ne {c : Char} {rest : List Char} (decimal : Decimal (c :: rest) n) :
    c ≠ '+' ∧ c ≠ '-' := by
  have digit := decimal.areDigits c List.mem_cons_self
  constructor <;> rintro rfl <;> exact absurd digit (by decide)

theorem map_eq_ok_iff {α β ε : Type} {result : Except ε α} {f : α → β} {b : β} :
    f <$> result = .ok b ↔ ∃ a, result = .ok a ∧ f a = b := by
  cases result with
  | error reason =>
    constructor
    · intro same
      cases same
    · rintro ⟨_, ⟨⟩, _⟩
  | ok a =>
    constructor
    · exact fun same => ⟨a, rfl, Except.ok.inj same⟩
    · rintro ⟨_, ⟨⟩, rfl⟩
      rfl

/-- Digits are read with a sign exactly if they are digits within the bound of the sign. -/
theorem map_readMagnitude_eq_ok_iff {f : Nat → Int} {i : Int} :
    f <$> readMagnitude bound excess digits = .ok i ↔
      ∃ m, Decimal digits m ∧ m ≤ bound ∧ f m = i := by
  rw [map_eq_ok_iff]
  constructor
  · rintro ⟨m, read, same⟩
    obtain ⟨decimal, le⟩ := readMagnitude_eq_ok_iff.mp read
    exact ⟨m, decimal, le, same⟩
  · rintro ⟨m, decimal, le, same⟩
    exact ⟨m, readMagnitude_eq_ok_iff.mpr ⟨decimal, le⟩, same⟩

/-- **A numeral without negative numbers is read as the number it writes**, and nothing else is
read. -/
theorem readUnsigned_eq_ok_iff {text : String} {n : UInt64} :
    readUnsigned text = .ok n ↔ WritesUnsigned text n := by
  have within : n.toNat ≤ UInt64.size - 1 := Nat.le_sub_one_of_lt n.toNat_lt
  have decimal_of {m : Nat} {digits : List Char} (same : UInt64.ofNat m = n)
      (read : readMagnitude (UInt64.size - 1) .tooLarge digits = .ok m) :
      Decimal digits n.toNat := by
    obtain ⟨decimal, le⟩ := readMagnitude_eq_ok_iff.mp read
    have lt : m < UInt64.size := Nat.lt_of_le_of_lt le (by decide)
    rwa [← same, UInt64.toNat_ofNat_of_lt' lt]
  have read_of {digits : List Char} (decimal : Decimal digits n.toNat) :
      readMagnitude (UInt64.size - 1) .tooLarge digits = .ok n.toNat :=
    readMagnitude_eq_ok_iff.mpr ⟨decimal, within⟩
  rw [readUnsigned, map_eq_ok_iff, WritesUnsigned]
  constructor
  · rintro ⟨m, read, same⟩
    split at read
    · cases read
    · exact ⟨_, decimal_of same read, .inr ‹_›⟩
    · exact ⟨_, decimal_of same read, .inl rfl⟩
  · rintro ⟨digits, decimal, chars | chars⟩
    · refine ⟨n.toNat, ?_, UInt64.ofNat_toNat⟩
      rw [chars]
      split
      · exact absurd rfl decimal.nonempty
      · exact absurd rfl decimal.head_ne.1
      · exact read_of decimal
    · exact ⟨n.toNat, by rw [chars]; exact read_of decimal, UInt64.ofNat_toNat⟩

/-- **A numeral with negative numbers is read as the number it writes**, and nothing else is
read. -/
theorem readSigned_eq_ok_iff {text : String} {n : Int64} :
    readSigned text = .ok n ↔ WritesSigned text n := by
  have low := n.le_toInt
  have high := n.toInt_lt
  have number {i : Int} (same : Int64.ofInt i = n) (ge : -2 ^ 63 ≤ i) (lt : i < 2 ^ 63) :
      n.toInt = i := by
    rw [← same, Int64.toInt_ofInt_of_le ge lt]
  rw [readSigned, map_eq_ok_iff, WritesSigned]
  constructor
  · rintro ⟨i, read, same⟩
    -- One case for each sign that a numeral can begin with, and one for none.
    split at read
    · cases read
    · obtain ⟨m, decimal, le, rfl⟩ := map_readMagnitude_eq_ok_iff.mp read
      exact ⟨_, m, decimal, .inr (.inr ⟨‹_›, number same (by omega) (by omega)⟩)⟩
    · obtain ⟨m, decimal, le, rfl⟩ := map_readMagnitude_eq_ok_iff.mp read
      exact ⟨_, m, decimal, .inr (.inl ⟨‹_›, number same (by omega) (by omega)⟩)⟩
    · obtain ⟨m, decimal, le, rfl⟩ := map_readMagnitude_eq_ok_iff.mp read
      exact ⟨_, m, decimal, .inl ⟨rfl, number same (by omega) (by omega)⟩⟩
  · rintro ⟨digits, m, decimal, ⟨chars, whole⟩ | ⟨chars, whole⟩ | ⟨chars, whole⟩⟩
    all_goals
      refine ⟨n.toInt, ?_, n.ofInt_toInt⟩
      rw [chars, whole]
    · split
      · exact absurd rfl decimal.nonempty
      · exact absurd rfl decimal.head_ne.2
      · exact absurd rfl decimal.head_ne.1
      · exact map_readMagnitude_eq_ok_iff.mpr ⟨m, decimal, by omega, rfl⟩
    · exact map_readMagnitude_eq_ok_iff.mpr ⟨m, decimal, by omega, rfl⟩
    · exact map_readMagnitude_eq_ok_iff.mpr ⟨m, decimal, by omega, rfl⟩

end Text

/-! ## Values of the settings -/

namespace CommandLine

/-- **What a setting holds.** -/
def Setting.Value : Setting → Type
  | .total => Int64
  | .width => UInt64
  | .fill | .delimiter => Char
  | .style => Style
  | .caps => Char × Char
  | .template => String

/-- **A text means a value** of a setting. -/
def Setting.Means : (s : Setting) → String → s.Value → Prop
  | .total, text, n => Text.WritesSigned text n
  | .width, text, n => Text.WritesUnsigned text n
  | .fill, text, c => text = String.singleton c
  | .style, text, preset => (text, preset) ∈ Style.presets
  | .caps, text, pair => text = String.ofList [pair.1, pair.2]
  | .template, text, whole => text = whole
  | .delimiter, text, c => text = String.singleton c

/-- **A text fits a setting** when it means one of its values. -/
def Setting.Fits (s : Setting) (text : String) : Prop := ∃ value, s.Means text value

/-- A text is read as a character exactly if it is that character alone, whatever number of bytes it
takes. -/
theorem readCharacter_eq_ok_iff {text : String} {c : Char} :
    readCharacter text = .ok c ↔ text = String.singleton c := by
  constructor
  · intro read
    rw [readCharacter] at read
    split at read
    · cases read
    · cases read
      exact String.toList_inj.mp (by rw [String.toList_singleton]; assumption)
    · cases read
  · rintro rfl
    exact readCharacter_singleton c

/-- A text is read as caps exactly if it is these two characters and no more. -/
theorem readCaps_eq_ok_iff {text : String} {caps : Char × Char} :
    readCaps text = .ok caps ↔ text = String.ofList [caps.1, caps.2] := by
  constructor
  · intro read
    rw [readCaps] at read
    split at read
    · cases read
      exact String.toList_inj.mp (by rw [String.toList_ofList]; assumption)
    · cases read
  · rintro rfl
    exact readCaps_ofList caps.1 caps.2

/-- A text is read as a style exactly if it is one of its names; upper and lower case differ. -/
theorem readStyle_eq_ok_iff {text : String} {style : Style} :
    readStyle text = .ok style ↔ (text, style) ∈ Style.presets := by
  constructor
  · intro read
    rw [readStyle, Style.ofName] at read
    cases found : Style.presets.lookup text with
    | none =>
      rw [found] at read
      cases read
    | some preset =>
      rw [found] at read
      cases read
      obtain ⟨front, behind, split, -⟩ := List.lookup_eq_some_iff.mp found
      exact split ▸ List.mem_append_right front List.mem_cons_self
  · intro listed
    exact readStyle_name ⟨(text, style), listed⟩

/-- A text read as a value of a setting. -/
def Setting.read : (s : Setting) → String → Except ValueFault s.Value
  | .total, text => (Text.readSigned text).mapError .numeral
  | .width, text => (Text.readUnsigned text).mapError .numeral
  | .fill, text | .delimiter, text => readCharacter text
  | .style, text => readStyle text
  | .caps, text => readCaps text
  | .template, text => .ok text

theorem mapError_eq_ok_iff {α ε ε' : Type} {result : Except ε α} {reason : ε → ε'} {a : α} :
    result.mapError reason = .ok a ↔ result = .ok a := by
  cases result with
  | error fault => exact ⟨nofun, nofun⟩
  | ok value =>
    exact ⟨fun same => congrArg Except.ok (Except.ok.inj same),
      fun same => congrArg Except.ok (Except.ok.inj same)⟩

/-- **A text is read as the value it means**, and not at all if it means none. -/
theorem Setting.read_eq_ok_iff {s : Setting} {text : String} {value : s.Value} :
    s.read text = .ok value ↔ s.Means text value := by
  cases s with
  | total => exact mapError_eq_ok_iff.trans Text.readSigned_eq_ok_iff
  | width => exact mapError_eq_ok_iff.trans Text.readUnsigned_eq_ok_iff
  | fill => exact readCharacter_eq_ok_iff
  | style => exact readStyle_eq_ok_iff
  | caps => exact readCaps_eq_ok_iff
  | template => exact ⟨fun same => Except.ok.inj same, fun same => congrArg Except.ok same⟩
  | delimiter => exact readCharacter_eq_ok_iff

/-- A preset has a name, so an empty text names none. -/
theorem Setting.not_fits_style_empty {text : String} (empty : text.isEmpty = true) :
    ¬ Setting.style.Fits text := by
  rintro ⟨preset, listed⟩
  have named := Style.Preset.name_ne_empty ⟨(text, preset), listed⟩
  exact Bool.false_ne_true (named.symm.trans empty)

namespace Entries

/-- The value entered for a setting, if there is one. -/
def value? (entries : Entries) : (s : Setting) → Option s.Value
  | .total => entries.total
  | .width => entries.width
  | .fill => entries.fill
  | .style => entries.style
  | .caps => entries.caps
  | .template => entries.template
  | .delimiter => entries.delimiter

/-- Entries with a value in the place of a setting. -/
def put (entries : Entries) : (s : Setting) → s.Value → Entries
  | .total, value => { entries with total := some value }
  | .width, value => { entries with width := some value }
  | .fill, value => { entries with fill := some value }
  | .style, value => { entries with style := some value }
  | .caps, value => { entries with caps := some value }
  | .template, value => { entries with template := some value }
  | .delimiter, value => { entries with delimiter := some value }

section Put

variable (entries : Entries) (s : Setting) (value : s.Value)

/-- A setting counts as entered exactly while it has a value, which is how a second value for it is
noticed. -/
theorem has_eq_isSome : entries.has s = (entries.value? s).isSome := by
  cases s <;> rfl

theorem value?_put : (entries.put s value).value? s = some value := by
  cases s <;> rfl

/-- A value put in one place leaves the other places as they are. -/
theorem value?_put_of_ne {other : Setting} (different : other ≠ s) :
    (entries.put s value).value? other = entries.value? other := by
  cases s <;> cases other <;> first | rfl | exact absurd rfl different

theorem isOn_put (switch : Switch) : (entries.put s value).isOn switch = entries.isOn switch := by
  cases s <;> cases switch <;> rfl

/-- To set a setting is to read its text and to put the value; a text that cannot be read puts
nothing. -/
theorem set_eq_map_read (text : String) :
    entries.set s text = (s.read text).map (entries.put s) := by
  cases s <;> rfl

end Put

variable {entries : Entries} {s : Setting} {text : String}

/-- **A new setting with a text that means a value** is entered with that value. -/
theorem enter_of_means {value : s.Value} (new : entries.value? s = none)
    (means : s.Means text value) : entries.enter s text = .ok (entries.put s value) := by
  have notHas : entries.has s = false := by rw [has_eq_isSome, new, Option.isSome_none]
  have given : ¬ (s = .style ∧ text.isEmpty = true) := by
    rintro ⟨rfl, empty⟩
    exact Setting.not_fits_style_empty empty ⟨value, means⟩
  rw [enter, notHas, if_neg Bool.false_ne_true, if_neg given, set_eq_map_read,
    Setting.read_eq_ok_iff.mpr means]
  rfl

/-- **A setting said before, or a text that does not fit it**, is refused. -/
theorem enter_of_wrong (wrong : entries.value? s ≠ none ∨ ¬ s.Fits text) :
    ∃ error, entries.enter s text = .error error := by
  rw [enter]
  split
  · exact ⟨_, rfl⟩
  · rename_i notHas
    split
    · exact ⟨_, rfl⟩
    · have unfit : ¬ s.Fits text := wrong.resolve_left fun has =>
        notHas (by rw [has_eq_isSome, Option.isSome_iff_ne_none]; exact has)
      rw [set_eq_map_read]
      cases read : s.read text with
      | error fault => exact ⟨_, rfl⟩
      | ok value => exact absurd ⟨value, Setting.read_eq_ok_iff.mp read⟩ unfit

/-- Entries with a switch on. -/
def flip (entries : Entries) : Switch → Entries
  | .percent => { entries with percent := true }
  | .count => { entries with count := true }
  | .debug => { entries with debug := true }

/-- **A new switch is turned on**, and a switch that is on already is refused. -/
theorem turnOn_eq (entries : Entries) (switch : Switch) :
    entries.turnOn switch =
      if entries.isOn switch then .error (.repeated (.switch switch))
      else .ok (entries.flip switch) := by
  cases switch <;> rfl

/-- A switch that is flipped is on, and the others are as they were. -/
theorem isOn_flip (entries : Entries) (switch other : Switch) :
    (entries.flip switch).isOn other = (entries.isOn other || decide (other = switch)) := by
  cases switch <;> cases other <;> simp [flip, isOn]

theorem value?_flip (entries : Entries) (switch : Switch) (s : Setting) :
    (entries.flip switch).value? s = entries.value? s := by
  cases switch <;> cases s <;> rfl

end Entries

end CommandLine

end ProgressBar
