/-!
# Templates

A template is a line of text with **slots** in it, written as `{bar}`, `{percent}` and `{count}`.
Reading a template from the left splits it into pieces, each a slot or a single character that
stands for itself; a brace that opens no slot is such a character. Filling in puts a text into each
slot.

**The law** (`spelling_pieces`): the pieces, written out again, are the template. Since the pieces
are those of the template and not of what is filled in, a text that looks like a slot is left alone.
-/

namespace ProgressBar

/-- **A slot** of a template. -/
inductive Slot where
  | bar
  | percent
  | count
  deriving DecidableEq, Repr

/-- How a slot is written. -/
def Slot.spelling : Slot → List Char
  | .bar => ['{', 'b', 'a', 'r', '}']
  | .percent => ['{', 'p', 'e', 'r', 'c', 'e', 'n', 't', '}']
  | .count => ['{', 'c', 'o', 'u', 'n', 't', '}']

namespace Template

/-- **A piece of a template.** -/
inductive Piece where
  | literal (c : Char)
  | slot (s : Slot)
  deriving DecidableEq, Repr

/-- How a piece is written. -/
def Piece.spelling : Piece → List Char
  | .literal c => [c]
  | .slot s => s.spelling

/-- What stands for a piece once the slots are filled with texts. -/
def Piece.text (texts : Slot → List Char) : Piece → List Char
  | .literal c => [c]
  | .slot s => texts s

/-- **The pieces of a template**, read from the left. -/
def pieces : List Char → List Piece
  | '{' :: 'b' :: 'a' :: 'r' :: '}' :: rest => .slot .bar :: pieces rest
  | '{' :: 'p' :: 'e' :: 'r' :: 'c' :: 'e' :: 'n' :: 't' :: '}' :: rest =>
    .slot .percent :: pieces rest
  | '{' :: 'c' :: 'o' :: 'u' :: 'n' :: 't' :: '}' :: rest => .slot .count :: pieces rest
  | c :: rest => .literal c :: pieces rest
  | [] => []

/-- **A template with its slots filled.** -/
def fill (texts : Slot → List Char) (template : List Char) : List Char :=
  (pieces template).flatMap (Piece.text texts)

/-- The template of a bar that is given none. -/
def standard : String := "\x7bbar\x7d \x7bpercent\x7d \x7bcount\x7d"

/-- **No character of a template is lost or moved by reading it**: the pieces, spelled one after the
other, are the template. -/
theorem spelling_pieces (template : List Char) :
    (pieces template).flatMap Piece.spelling = template := by
  fun_induction pieces template <;> simp_all [Piece.spelling, Slot.spelling]

end Template

end ProgressBar
