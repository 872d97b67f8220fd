/-!
# What a command line can say

The names that may stand behind two dashes. A **setting** takes a value, a **switch** does not, and
an **inquiry** asks for something to be told instead of being done.
-/

namespace ProgressBar.CommandLine

/-- **A setting**, which takes a value. -/
inductive Setting where
  | total
  | width
  | fill
  | style
  | caps
  | template
  | delimiter
  deriving DecidableEq, Repr

/-- **A switch**, which takes none. -/
inductive Switch where
  | percent
  | count
  | debug
  deriving DecidableEq, Repr

/-- **An inquiry.** -/
inductive Inquiry where
  | version
  | help
  deriving DecidableEq, Repr

/-- The name of a setting. -/
def Setting.name : Setting → String
  | .total => "total"
  | .width => "width"
  | .fill => "fill"
  | .style => "style"
  | .caps => "caps"
  | .template => "template"
  | .delimiter => "delim"

/-- The name of a switch. -/
def Switch.name : Switch → String
  | .percent => "percent"
  | .count => "count"
  | .debug => "debug"

/-- The name of an inquiry. -/
def Inquiry.name : Inquiry → String
  | .version => "version"
  | .help => "help"

/-- The letter of an inquiry, behind a single dash. -/
def Inquiry.letter : Inquiry → Char
  | .version => 'V'
  | .help => 'h'

/-- **Whatever has a name.** -/
inductive Key where
  | setting (setting : Setting)
  | switch (switch : Switch)
  | inquiry (inquiry : Inquiry)
  deriving DecidableEq, Repr

namespace Key

/-- The name of a key. -/
def name : Key → String
  | setting s => s.name
  | switch s => s.name
  | inquiry i => i.name

/-- All keys, in the order in which they are listed to the user. -/
def all : List Key :=
  [setting .total, setting .width, setting .fill, setting .style, setting .caps, switch .percent,
    switch .count, setting .template, setting .delimiter, switch .debug, inquiry .help,
    inquiry .version]

/-- **The key of a name.** -/
def ofName? (name : String) : Option Key := all.find? (·.name == name)

/-- **How a key is shown** in a message: a setting with a place for its value. -/
def usage : Key → String
  | setting s => "--" ++ s.name ++ " <" ++ s.name ++ ">"
  | key => "--" ++ key.name

/-- Every key is found by its name, so no two keys go by one name. -/
theorem ofName?_name (key : Key) : ofName? key.name = some key := by
  rcases key with s | s | i
  · cases s <;> decide
  · cases s <;> decide
  · cases i <;> decide

end Key

end ProgressBar.CommandLine
