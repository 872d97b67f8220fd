/-!
# The words of a command line

Each argument is one word, told apart by its dashes. Two dashes alone end the part in which dashes
mean something; two dashes and a name name something, and an equals sign behind the name brings a
value along; one dash and a letter is a short form. A dash alone and everything else is plain.

**What it does not establish.** Whether a plain word is a value is a question of the words before
it.
-/

namespace ProgressBar.CommandLine

/-- **A word.** -/
inductive Word where
  /-- Two dashes alone. -/
  | terminator
  /-- A name, with the value that an equals sign brought along. -/
  | long (name : String) (value : Option String)
  /-- A dash and at least a letter, of which the first decides. -/
  | short (letter : Char)
  | plain (text : String)
  deriving DecidableEq, Repr

namespace Word

/-- The value behind a name, without its equals sign. -/
def valueOf : List Char → Option String
  | '=' :: value => some (String.ofList value)
  | _ => none

/-- **The word of an argument**, character by character. -/
def ofChars : List Char → Word
  | ['-', '-'] => terminator
  | '-' :: '-' :: rest =>
    let isName (c : Char) : Bool := c != '='
    long (String.ofList (rest.takeWhile isName)) (valueOf (rest.dropWhile isName))
  | '-' :: letter :: _ => short letter
  | text => plain (String.ofList text)

/-- **The word of an argument.** -/
def ofString (argument : String) : Word := ofChars argument.toList

end Word

end ProgressBar.CommandLine
