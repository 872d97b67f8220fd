import ProgressBar.CommandLine.Key
import ProgressBar.Program.Outcome

/-!
# The help of the program

What is told to a user who asks for help: what the program does, how it is called, and every key of
the command line with what is said about it. The keys stand in one column and the explanations in a
second, which begins behind the longest key; the further lines of an explanation are indented to the
same column, and none is broken.
-/

namespace ProgressBar.Program

open CommandLine (Key)

/-- What the program does. -/
def about : String := "Draw a progress bar, ticking once per record read from stdin"

/-- **What is said about a key**, line by line: the kind of its value, its meaning, and the values
it has or may have. -/
def explanation : Key → List String
  | .setting .total => ["int", "The number of expected records."]
  | .setting .width => ["int, optional", "Number of cells in the bar. [default: 40]"]
  | .setting .fill => ["chr, optional", "Symbol of completed cells. [default: #]"]
  | .setting .style =>
    ["str, optional",
      "Preset fill symbol, overrides --fill. [possible values: ascii, block, balloon]"]
  | .setting .caps => ["str, optional", "Two characters bracketing the bar [default: '[]']."]
  | .setting .template =>
    ["str, optional", "Line layout using \x7bbar\x7d, \x7bpercent\x7d and \x7bcount\x7d."]
  | .setting .delimiter => ["chr, optional", "Delimiting character [default: '\\n']."]
  | .switch .percent => ["Show the percentage."]
  | .switch .count => ["Show the counter."]
  | .switch .debug => ["Enable debug logging on stderr."]
  | .inquiry .help => ["Print help"]
  | .inquiry .version => ["Print version"]

/-- A key in the first column, behind its letter if it has one. -/
def keyColumn : Key → String
  | .inquiry i => "  -" ++ String.singleton i.letter ++ ", " ++ (Key.inquiry i).usage
  | key => "      " ++ key.usage

/-- Where the explanations stand: two blanks behind the longest key. -/
def explanationColumn : Nat := (Key.all.map (keyColumn · |>.length)).foldl max 0 + 2

/-- Some blanks. -/
def blanks (n : Nat) : String := String.ofList (List.replicate n ' ')

/-- **The lines about a key.** -/
def keyLines (key : Key) : List String :=
  let head := keyColumn key
  match explanation key with
  | [] => [head]
  | first :: rest =>
    (head ++ blanks (explanationColumn - head.length) ++ first) ::
      rest.map (blanks explanationColumn ++ ·)

/-- **The help**, line by line. -/
def helpLines : List String :=
  [about, "", "Usage: " ++ name ++ " [OPTIONS] " ++ (Key.setting .total).usage, "", "Options:"] ++
    Key.all.flatMap keyLines

/-- **The help.** -/
def help : String := "\n".intercalate helpLines ++ "\n"

end ProgressBar.Program
