import ProgressBar.CommandLine.Settings
import ProgressBar.CommandLine.Word

/-!
# Reading a command line

The words are read in order. A setting without an equals sign waits for the next word to be its
value and is **settled**, that is checked and entered, only when a word comes that is not: so of two
wrong words next to each other, a setting with its value and an unknown name, the name is what is
complained about. A word that says nothing wrong settles what waits before it; an inquiry stops the
reading.

A value of its own may not begin with a dash, unless it is the dash alone; such a value has to stand
behind an equals sign.

**What is assumed.** The program leaves its arguments to a parser of command lines, which is no part
of it, and this reading stands for that parser. What is assumed of the parser is said in the words
of the arguments, as the rules that a reader keeps (`CommandLine.Keeps`): each key is said at most
once and each value fits; of an inquiry and a mistake the one that comes first decides; and a
missing total is complained about only when all else is right. This reading keeps them
(`CommandLine.read_keeps`). The wording of a complaint, and which of two mistakes next to each other
it is about, are assumed beyond the rules.
-/

namespace ProgressBar.CommandLine

/-- **Why the reading stops** before there are settings. -/
inductive Stop where
  | wrong (error : UsageError)
  | asked (inquiry : Inquiry)
  deriving DecidableEq, Repr

/-- **Where the reading stands.** -/
structure Scan where
  entries : Entries := {}
  /-- A setting that is not settled, with its value if that was read. -/
  pending : Option (Setting × Option String) := none
  /-- Dashes mean nothing any more. -/
  isLiteral : Bool := false
  deriving DecidableEq, Repr

namespace Scan

/-- **Settle** the setting that waits, if there is one. -/
def settle (scan : Scan) : Except UsageError Scan :=
  match scan.pending with
  | none => .ok scan
  | some (setting, none) => .error (.missingValue setting)
  | some (setting, some value) =>
    (scan.entries.enter setting value).map fun entries => { scan with entries, pending := none }

/-- A key is read, perhaps with a value. -/
def readKey (scan : Scan) (key : Key) (value : Option String) : Except Stop Scan :=
  match key, value with
  | .setting setting, none =>
    (scan.settle.map fun scan => { scan with pending := some (setting, none) }).mapError .wrong
  | .setting setting, some value =>
    (do
      let scan ← scan.settle
      let entries ← scan.entries.enter setting value
      return { scan with entries }).mapError .wrong
  | key, some value => .error (.wrong (.unexpectedValue key value))
  | .switch switch, none =>
    (do
      let scan ← scan.settle
      let entries ← scan.entries.turnOn switch
      return { scan with entries }).mapError .wrong
  | .inquiry inquiry, none =>
    match scan.settle with
    | .ok _ => .error (.asked inquiry)
    | .error error => .error (.wrong error)

/-- A plain word is read: the value of the setting that waits for one. -/
def readPlain (scan : Scan) (text : String) : Except Stop Scan :=
  match scan.pending with
  | some (setting, none) => .ok { scan with pending := some (setting, some text) }
  | _ => .error (.wrong (.unexpectedArgument text))

/-- **One argument is read.** -/
def read (scan : Scan) (argument : String) : Except Stop Scan :=
  if scan.isLiteral then .error (.wrong (.unexpectedArgument argument))
  else
    match Word.ofString argument with
    | .terminator => .ok { scan with isLiteral := true }
    | .long name value =>
      match Key.ofName? name with
      | some key => scan.readKey key value
      | none => .error (.wrong (.unexpectedArgument ("--" ++ name)))
    | .short letter =>
      if letter = Inquiry.version.letter then scan.readKey (.inquiry .version) none
      else if letter = Inquiry.help.letter then scan.readKey (.inquiry .help) none
      else .error (.wrong (.unexpectedArgument (String.ofList ['-', letter])))
    | .plain text => scan.readPlain text

/-- The settings at the end of the words. -/
def finish (scan : Scan) : Except Stop Settings :=
  (do
    let scan ← scan.settle
    scan.entries.settings).mapError .wrong

end Scan

/-- **The settings of a command line.** -/
def read (arguments : List String) : Except Stop Settings := do
  let scan ← arguments.foldlM Scan.read {}
  scan.finish

end ProgressBar.CommandLine
