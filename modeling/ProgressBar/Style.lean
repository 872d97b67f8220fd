/-!
# Styles

A style says which symbol marks a completed cell. The presets go by lower-case names, and a name
that belongs to no preset is refused. A style made from a symbol is never equal to a preset, also
when it is the preset's symbol.
-/

namespace ProgressBar

/-- **A style**: one of the presets, or a symbol of the user's own. -/
inductive Style where
  /-- Presented as `[#####     ]`; the style that is used when none is named. -/
  | ascii
  /-- Presented as `[█████     ]`. -/
  | block
  /-- Presented as `[*****     ]`. -/
  | balloon
  | custom (symbol : Char)
  deriving DecidableEq, Repr

instance : Inhabited Style := ⟨.ascii⟩

namespace Style

/-- The symbol of a completed cell. -/
def fill : Style → Char
  | ascii => '#'
  | block => '█'
  | balloon => '*'
  | custom symbol => symbol

/-- The presets. A symbol of one's own has no name. -/
def presets : List (String × Style) :=
  [("ascii", ascii), ("block", block), ("balloon", balloon)]

/-- **Why a style was refused.** -/
inductive Unknown where
  /-- No preset has the name. -/
  | name
  deriving DecidableEq, Repr

/-- The wording of a refusal. -/
def Unknown.message : Unknown → String
  | .name => "Matching variant not found"

/-- **The preset of a name**, which is read as it stands. -/
def ofName (name : String) : Except Unknown Style :=
  match presets.lookup name with
  | some style => .ok style
  | none => .error .name

/-- **How a style is asked for**: by a preset's name, by a symbol, or not at all. -/
inductive Request where
  | named (name : String)
  | symbol (c : Char)
  | unspecified
  deriving DecidableEq, Repr

/-- The style a request asks for. -/
def Request.resolve : Request → Except Unknown Style
  | .named name => ofName name
  | .symbol c => .ok (custom c)
  | .unspecified => .ok default

end Style

end ProgressBar
