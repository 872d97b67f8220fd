import ProgressBar.Bar.Draw
import ProgressBar.Bar.Edit
import ProgressBar.CommandLine.UsageError

/-!
# Settings

What a command line comes to. **Entries** are what has been said so far, each setting at most once;
**settings** are what holds in the end, with a value for what was left out. Only the total cannot be
left out.

A style, when there is one, gives the symbol of the cells, whatever was said about the symbol.
-/

namespace ProgressBar.CommandLine

/-- **What a command line has said so far.** -/
structure Entries where
  total : Option Int64 := none
  width : Option UInt64 := none
  fill : Option Char := none
  style : Option Style := none
  caps : Option (Char × Char) := none
  template : Option String := none
  delimiter : Option Char := none
  percent : Bool := false
  count : Bool := false
  debug : Bool := false
  deriving DecidableEq, Repr

/-- **What a command line asks for.** -/
structure Settings where
  total : Int64
  width : UInt64 := 40
  fill : Char := '#'
  style : Option Style := none
  caps : Option (Char × Char) := none
  template : Option String := none
  /-- The character that ends a record of the input. -/
  delimiter : Char := '\n'
  percent : Bool := false
  count : Bool := false
  /-- Diagnostics are wanted beside the output. -/
  debug : Bool := false
  deriving DecidableEq, Repr

/-- A value that is a single character. -/
def readCharacter (value : String) : Except ValueFault Char :=
  match value.toList with
  | [] => .error .noCharacter
  | [c] => .ok c
  | _ => .error .severalCharacters

/-- A value that is two characters. -/
def readCaps (value : String) : Except ValueFault (Char × Char) :=
  match value.toList with
  | [first, last] => .ok (first, last)
  | _ => .error (.notTwoCharacters value)

/-- A value that names a style. -/
def readStyle (value : String) : Except ValueFault Style :=
  (Style.ofName value).mapError fun _ => .notAmongChoices

namespace Entries

/-- Whether a setting has been said. -/
def has (entries : Entries) : Setting → Bool
  | .total => entries.total.isSome
  | .width => entries.width.isSome
  | .fill => entries.fill.isSome
  | .style => entries.style.isSome
  | .caps => entries.caps.isSome
  | .template => entries.template.isSome
  | .delimiter => entries.delimiter.isSome

/-- Whether a switch has been said. -/
def isOn (entries : Entries) : Switch → Bool
  | .percent => entries.percent
  | .count => entries.count
  | .debug => entries.debug

/-- Entries with a value read for a setting. -/
def set (entries : Entries) (setting : Setting) (value : String) : Except ValueFault Entries :=
  match setting with
  | .total =>
    ((Text.readSigned value).mapError .numeral).map fun total =>
      { entries with total := some total }
  | .width =>
    ((Text.readUnsigned value).mapError .numeral).map fun width =>
      { entries with width := some width }
  | .fill => (readCharacter value).map fun fill => { entries with fill := some fill }
  | .style => (readStyle value).map fun style => { entries with style := some style }
  | .caps => (readCaps value).map fun caps => { entries with caps := some caps }
  | .template => .ok { entries with template := some value }
  | .delimiter =>
    (readCharacter value).map fun delimiter => { entries with delimiter := some delimiter }

/-- **Enter a setting**: it must be new and its value must do. An empty style is no value at all. -/
def enter (entries : Entries) (setting : Setting) (value : String) : Except UsageError Entries :=
  if entries.has setting then .error (.repeated (.setting setting))
  else if setting = .style ∧ value.isEmpty then .error (.missingValue .style)
  else (entries.set setting value).mapError (.invalidValue setting value)

/-- **Enter a switch**, which must be new. -/
def turnOn (entries : Entries) (switch : Switch) : Except UsageError Entries :=
  if entries.isOn switch then .error (.repeated (.switch switch))
  else
    .ok <| match switch with
      | .percent => { entries with percent := true }
      | .count => { entries with count := true }
      | .debug => { entries with debug := true }

/-- **The settings of the entries**, if there is a total. -/
def settings (entries : Entries) : Except UsageError Settings :=
  match entries.total with
  | none => .error .missingTotal
  | some total =>
    .ok
      { total
        width := entries.width.getD 40
        fill := entries.fill.getD '#'
        style := entries.style
        caps := entries.caps
        template := entries.template
        delimiter := entries.delimiter.getD '\n'
        percent := entries.percent
        count := entries.count
        debug := entries.debug }

end Entries

namespace Settings

/-- The configuration of the bar asked for. -/
def config (settings : Settings) : Config := ⟨settings.fill, settings.width, settings.total⟩

/-- A bar laid out as the settings ask. -/
def lay (settings : Settings) (bar : Bar) : Bar :=
  { bar with
    fill := (settings.style.map Style.fill).getD bar.fill
    caps := settings.caps.getD bar.caps
    template := settings.template.getD bar.template
    showsPercent := settings.percent
    showsCount := settings.count }

/-- **Build the bar** the settings ask for. -/
def build (settings : Settings) (console : Console) : Except ConfigError Bar × Console :=
  let (result, console) := Bar.build settings.config console
  (result.map settings.lay, console)

end Settings

end ProgressBar.CommandLine
