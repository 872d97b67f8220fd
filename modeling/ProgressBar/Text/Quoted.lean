import ProgressBar.Text.Unprintable

/-!
# Quoted text

Text shown in a diagnostic stands between quotation marks, with whatever a reader could not see
written as an escape. A character keeps its own form when it is printable; the line controls, NUL
and the backslash have short escapes; the quotation mark in use is escaped, the other one is not;
all else is written by its code point in lower-case hexadecimal digits without padding.

**What it does not establish.** The quotation mark decides which marks are escaped, so the same
character has two quoted forms, one inside a string and one alone.
-/

namespace ProgressBar.Text

/-- **A character inside quotation marks** of the kind `mark`. -/
def escaped (mark c : Char) : List Char :=
  match c with
  | '\x00' => ['\\', '0']
  | '\t' => ['\\', 't']
  | '\n' => ['\\', 'n']
  | '\r' => ['\\', 'r']
  | '\\' => ['\\', '\\']
  | c =>
    if c = mark then ['\\', c]
    else if isUnprintable c then ['\\', 'u', '{'] ++ Nat.toDigits 16 c.toNat ++ ['}']
    else [c]

/-- **A string in quotation marks.** -/
def quoted (text : String) : String :=
  String.ofList ('"' :: text.toList.flatMap (escaped '"') ++ ['"'])

/-- **A character in apostrophes.** -/
def quotedChar (c : Char) : String :=
  String.ofList ('\'' :: escaped '\'' c ++ ['\''])

/-- A quoted text, character by character: what is escaped is escaped by itself, whatever stands
next to it. -/
theorem toList_quoted (text : String) :
    (quoted text).toList = '"' :: text.toList.flatMap (escaped '"') ++ ['"'] := by
  simp [quoted]

end ProgressBar.Text
