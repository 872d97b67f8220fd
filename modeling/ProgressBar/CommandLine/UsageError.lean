import ProgressBar.CommandLine.Key
import ProgressBar.Text.ControlSequence
import ProgressBar.Text.Numeral
import ProgressBar.Text.Quoted

/-!
# Wrong command lines

What can be wrong with a command line, and how it is said. Words of the user are shown without their
control sequences (`ProgressBar.Text.ControlSequence.visible`).
-/

namespace ProgressBar.CommandLine

/-- **Why a value does not do.** -/
inductive ValueFault where
  | numeral (fault : Text.NumeralFault)
  | noCharacter
  | severalCharacters
  /-- Caps are two characters, and this text is not. -/
  | notTwoCharacters (text : String)
  /-- The value is none of those there are. -/
  | notAmongChoices
  deriving DecidableEq, Repr

/-- The wording of a value's fault, where it has one. -/
def ValueFault.message? : ValueFault → Option String
  | .numeral fault => some fault.message
  | .noCharacter => some "cannot parse char from empty string"
  | .severalCharacters => some "too many characters in string"
  | .notTwoCharacters text => some ("expected exactly two characters, got " ++ Text.quoted text)
  | .notAmongChoices => none

/-- **What is wrong with a command line.** -/
inductive UsageError where
  /-- A word that has no place. -/
  | unexpectedArgument (shown : String)
  /-- A value for something that takes none. -/
  | unexpectedValue (key : Key) (value : String)
  | repeated (key : Key)
  | missingValue (setting : Setting)
  | invalidValue (setting : Setting) (value : String) (fault : ValueFault)
  | missingTotal
  deriving DecidableEq, Repr

/-- A text between apostrophes. -/
def apostrophed (text : String) : String := "'" ++ text ++ "'"

/-- A text of the user between apostrophes. -/
def shownWord (text : String) : String := apostrophed (Text.ControlSequence.visible text)

/-- **The wording of a usage error.** -/
def UsageError.message : UsageError → String
  | unexpectedArgument shown => "unexpected argument " ++ shownWord shown ++ " found"
  | unexpectedValue key value =>
    "unexpected value " ++ shownWord value ++ " for " ++ apostrophed key.usage ++
      " found; no more were expected"
  | repeated key => "the argument " ++ apostrophed key.usage ++ " cannot be used multiple times"
  | missingValue setting =>
    "a value is required for " ++ apostrophed (Key.setting setting).usage ++
      " but none was supplied"
  | invalidValue setting value fault =>
    "invalid value " ++ shownWord value ++ " for " ++ apostrophed (Key.setting setting).usage ++
      match fault.message? with
      | some reason => ": " ++ reason
      | none => ""
  | missingTotal => "the following required arguments were not provided:"

end ProgressBar.CommandLine
