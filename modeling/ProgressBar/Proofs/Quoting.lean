import Mathlib.Data.List.Forall2
import ProgressBar.Text.Quoted

/-!
# Lines in quotation marks

A line is told from outside of the log by its quoted form. How a character stands there is said by
rules of its own (`Shows`), one for every escape and one for all that stands for itself; a text is
quoted by its characters in a row between two quotation marks (`Quotes`).

**The law** (`quotes_quoted`, `Quotes.text_eq`): every text has a quoted form, and no other text has
the same. So nothing of a line is lost in the log, wherever its marks, backslashes and control
characters stand.

The second half reads a quoted form from its start: the first characters of it tell which rule made
them, and where they end (`unescape`). No induction on the number of a hidden character is needed
for that, since its digits end at the brace.

**What it does not establish.** Which characters can be seen is a table (`isUnprintable`), and is
taken as it is.
-/

namespace ProgressBar.Text

/-! ## Hexadecimal digits -/

/-- The hexadecimal digits, in lower case. -/
def hexDigits : List Char :=
  ['0', '1', '2', '3', '4', '5', '6', '7', '8', '9', 'a', 'b', 'c', 'd', 'e', 'f']

/-- **The number that hexadecimal digits make.** -/
def hexNumber (digits : List Char) : Nat :=
  digits.foldl (fun sofar digit => 16 * sofar + hexDigits.idxOf digit) 0

/-- A digit behind others counts once, and the others sixteen times. -/
theorem hexNumber_concat (digits : List Char) (digit : Char) :
    hexNumber (digits ++ [digit]) = 16 * hexNumber digits + hexDigits.idxOf digit := by
  simp only [hexNumber, List.foldl_append, List.foldl_cons, List.foldl_nil]

/-- The digits of the numbers below sixteen. -/
theorem digitChar_of_lt {n : Nat} (lt : n < 16) :
    n.digitChar ∈ hexDigits ∧ hexDigits.idxOf n.digitChar = n := by
  have each : ∀ m ∈ List.range 16, m.digitChar ∈ hexDigits ∧
      hexDigits.idxOf m.digitChar = m := by decide
  exact each n (List.mem_range.mpr lt)

/-- **The digits of a number** are hexadecimal digits and make the number. Only zero begins with a
zero, so no number is padded. -/
theorem toDigits_hex (n : Nat) :
    (∀ digit ∈ Nat.toDigits 16 n, digit ∈ hexDigits) ∧ hexNumber (Nat.toDigits 16 n) = n ∧
      ((Nat.toDigits 16 n).head? = some '0' → n = 0) := by
  induction n using Nat.strongRecOn with
  | ind n ih =>
    rcases Nat.lt_or_ge n 16 with small | large
    · obtain ⟨mem, value⟩ := digitChar_of_lt small
      rw [Nat.toDigits_of_lt_base small]
      refine ⟨?_, ?_, ?_⟩
      · simpa using mem
      · simpa [hexNumber] using value
      · simp
    · obtain ⟨mems, value, zero⟩ := ih (n / 16) (by omega)
      obtain ⟨mem, last⟩ := digitChar_of_lt (Nat.mod_lt n (by decide))
      rw [Nat.toDigits_of_base_le (by decide) large]
      refine ⟨?_, ?_, ?_⟩
      · intro digit among
        rcases List.mem_append.mp among with front | back
        · exact mems digit front
        · exact List.mem_singleton.mp back ▸ mem
      · rw [hexNumber_concat, value, last]
        omega
      · rw [List.head?_append_of_ne_nil _ Nat.toDigits_ne_nil]
        intro first
        have := zero first
        omega

/-! ## Characters -/

/-- **How a character stands between quotation marks.** -/
inductive Shows : Char → List Char → Prop
  | nul : Shows '\x00' ['\\', '0']
  | tab : Shows '\t' ['\\', 't']
  | lineFeed : Shows '\n' ['\\', 'n']
  | carriageReturn : Shows '\r' ['\\', 'r']
  | backslash : Shows '\\' ['\\', '\\']
  | mark : Shows '"' ['\\', '"']
  /-- What cannot be seen stands as its number, in hexadecimal digits without padding. -/
  | number {c : Char} {digits : List Char} (hidden : isUnprintable c = true)
    (hexadecimal : ∀ digit ∈ digits, digit ∈ hexDigits) (unpadded : digits.head? ≠ some '0')
    (value : hexNumber digits = c.toNat) : Shows c ('\\' :: 'u' :: '{' :: digits ++ ['}'])
  /-- All else stands for itself. -/
  | itself {c : Char} (visible : isUnprintable c = false) (notBackslash : c ≠ '\\')
    (notMark : c ≠ '"') : Shows c [c]

/-- **Every character is shown** as it stands in a quoted text: by itself, by a letter behind a
backslash, or by its number. -/
theorem shows_escaped (c : Char) : Shows c (escaped '"' c) := by
  by_cases mark : c = '"'
  · subst mark
    exact .mark
  unfold escaped
  split
  · exact .nul
  · exact .tab
  · exact .lineFeed
  · exact .carriageReturn
  · exact .backslash
  · rename_i notNul _ _ _ notBackslash
    rw [if_neg mark]
    split
    · rename_i hidden
      obtain ⟨hexadecimal, value, zero⟩ := toDigits_hex c.toNat
      refine .number hidden hexadecimal (fun first => notNul ?_) value
      rw [← Char.ofNat_toNat c, zero first]
    · rename_i visible
      exact .itself (Bool.not_eq_true _ ▸ visible) notBackslash mark

/-- **Read the first character of a quoted text**, with what stands behind it. -/
def unescape : List Char → Option (Char × List Char)
  | '\\' :: '0' :: rest => some ('\x00', rest)
  | '\\' :: 't' :: rest => some ('\t', rest)
  | '\\' :: 'n' :: rest => some ('\n', rest)
  | '\\' :: 'r' :: rest => some ('\r', rest)
  | '\\' :: 'u' :: '{' :: rest =>
    some (Char.ofNat (hexNumber (rest.takeWhile (· != '}'))), (rest.dropWhile (· != '}')).tail)
  | '\\' :: c :: rest => some (c, rest)
  | '"' :: _ => none
  | c :: rest => some (c, rest)
  | [] => none

/-- **A shown character is read back**, whatever stands behind it. The three ways to show one begin
differently, so there is no doubt where it ends. -/
theorem Shows.unescape_append {c : Char} {shown : List Char} (shows : Shows c shown)
    (rest : List Char) : unescape (shown ++ rest) = some (c, rest) := by
  cases shows with
  | nul => rfl
  | tab => rfl
  | lineFeed => rfl
  | carriageReturn => rfl
  | backslash => rfl
  | mark => rfl
  | @number _ digits _ hexadecimal _ value =>
    have inside : ∀ digit ∈ digits, (digit != '}') = true := by
      intro digit among
      have noBrace : ∀ d ∈ hexDigits, (d != '}') = true := List.all_eq_true.mp (by decide)
      exact noBrace digit (hexadecimal digit among)
    have split : '\\' :: 'u' :: '{' :: digits ++ ['}'] ++ rest =
        '\\' :: 'u' :: '{' :: (digits ++ '}' :: rest) := by simp
    rw [split]
    simp only [unescape]
    rw [List.takeWhile_append_of_pos inside, List.dropWhile_append_of_pos inside,
      List.takeWhile_cons_of_neg (by decide), List.dropWhile_cons_of_neg (by decide),
      List.append_nil, value, Char.ofNat_toNat]
    rfl
  | itself _ notBackslash notMark =>
    rw [List.singleton_append, unescape]
    all_goals simp_all

/-! ## Texts -/

/-- **A text is quoted as another**: character by character between two quotation marks. -/
def Quotes (text quoted : String) : Prop :=
  ∃ parts, List.Forall₂ Shows text.toList parts ∧ quoted.toList = '"' :: parts.flatten ++ ['"']

/-- **Every text has a quoted form**, and this is the one that is written into the log. -/
theorem quotes_quoted (text : String) : Quotes text (quoted text) := by
  refine ⟨text.toList.map (escaped '"'), ?_, ?_⟩
  · rw [List.forall₂_map_right_iff, List.forall₂_same]
    exact fun c _ => shows_escaped c
  · rw [toList_quoted, List.flatMap]

/-- The characters behind the first mark tell the text, up to the last mark. -/
theorem eq_of_shown {first second : List Char} {parts others : List (List Char)}
    (shows : List.Forall₂ Shows first parts) (showsToo : List.Forall₂ Shows second others)
    (same : parts.flatten ++ ['"'] = others.flatten ++ ['"']) : first = second := by
  have atEnd : unescape ['"'] = none := rfl
  induction shows generalizing second others with
  | nil =>
    cases showsToo with
    | nil => rfl
    | cons shown _ =>
      rw [List.flatten_nil, List.nil_append, List.flatten_cons, List.append_assoc] at same
      rw [same, shown.unescape_append] at atEnd
      cases atEnd
  | @cons _ part _ parts shown _ ih =>
    cases showsToo with
    | nil =>
      rw [List.flatten_nil, List.nil_append, List.flatten_cons, List.append_assoc] at same
      rw [← same, shown.unescape_append] at atEnd
      cases atEnd
    | cons shownToo rest =>
      rw [List.flatten_cons, List.flatten_cons, List.append_assoc, List.append_assoc] at same
      have read := shown.unescape_append (parts.flatten ++ ['"'])
      rw [same, shownToo.unescape_append] at read
      obtain ⟨rfl, behind⟩ := Prod.mk.inj (Option.some.inj read)
      rw [ih rest behind.symm]

/-- **A quoted form belongs to one text only.** The text is read back from it character by
character. -/
theorem Quotes.text_eq {text other shown : String} (quotes : Quotes text shown)
    (quotesToo : Quotes other shown) : text = other := by
  obtain ⟨parts, shows, made⟩ := quotes
  obtain ⟨others, showsToo, madeToo⟩ := quotesToo
  rw [made] at madeToo
  exact String.toList_inj.mp (eq_of_shown shows showsToo (List.cons.inj madeToo).2)

/-- A shown character has no control character in it, least of all the end of a line. -/
theorem Shows.not_control {c : Char} {shown : List Char} (shows : Shows c shown) :
    ∀ d ∈ shown, 0x20 ≤ d.toNat := by
  cases shows with
  | number _ hexadecimal _ _ =>
    have visible : ∀ d ∈ hexDigits, 0x20 ≤ d.toNat := by simp [hexDigits]
    intro d among
    simp only [List.mem_append, List.mem_cons, List.not_mem_nil, or_false] at among
    rcases among with (rfl | rfl | rfl | digit) | rfl
    · decide
    · decide
    · decide
    · exact visible d (hexadecimal d digit)
    · decide
  | itself visible _ _ =>
    intro d among
    rw [List.mem_singleton.mp among]
    by_contra control
    rw [isUnprintable_of_control (by omega)] at visible
    cases visible
  | _ => simp

/-- A text that is shown character by character has no control character in it, since a control
character is always shown by an escape. -/
theorem not_control_of_shown {text : List Char} {parts : List (List Char)}
    (shows : List.Forall₂ Shows text parts) : ∀ c ∈ parts.flatten, 0x20 ≤ c.toNat := by
  induction shows with
  | nil => exact nofun
  | cons shown _ ih =>
    intro c among
    rw [List.flatten_cons, List.mem_append] at among
    exact among.elim (shown.not_control c) (ih c)

/-- **A quoted form is one line**: no control character stands in it, so a carriage return in a line
does not break the log. -/
theorem Quotes.not_control {text shown : String} (quotes : Quotes text shown) :
    ∀ c ∈ shown.toList, 0x20 ≤ c.toNat := by
  obtain ⟨parts, shows, made⟩ := quotes
  intro c among
  rw [made, List.mem_append, List.mem_cons] at among
  rcases among with (rfl | middle) | last
  · decide
  · exact not_control_of_shown shows c middle
  · rw [List.mem_singleton.mp last]
    decide

end ProgressBar.Text
