import ProgressBar.Proofs.CommandLine.Fitting
import ProgressBar.Proofs.CommandLine.Spelling

/-!
# The rules of a command line

What is right on a command line and what is not, in the words of the arguments. Words are **right**
when they say some things, each thing once and with a value that fits (`Right`). Behind right words
a command line may end, make an inquiry, or make a **mistake** (`Mistaken`). What stands behind an
inquiry does not matter, nor what stands behind a mistake. Two dashes alone may stand at the end,
and no word behind them.

These are the rules that are assumed of a parser of command lines. A reader of arguments **keeps**
them (`Keeps`) when it hears the inquiry that comes first, refuses the mistake that comes first,
misses the total only when nothing else is wrong, and else gives settings that hold what was said
(`Settings.Hold`).

**The law** (`exhaustive`): for every list of arguments one of these comes first. So a reader that
keeps the rules is determined by them, but for the words in which it refuses a mistake.

**What it does not establish.** That there is a reader that keeps the rules.
-/

namespace ProgressBar.CommandLine

/-! ## Right words -/

/-- What is said has a value that fits, if it has a value. -/
def Saying.Fits : Saying → Prop
  | .setting s text => s.Fits text
  | .switch _ => True

/-- **Words that are right by themselves**: they say some things, each once, with values that
fit. -/
structure Right (said : List Saying) (words : List String) : Prop where
  spelled : Spelled said words
  once : (said.map Saying.key).Nodup
  fits : ∀ saying ∈ said, saying.Fits

/-- **What was said about a setting**: a text that means the value, or nothing where there is no
value. -/
def Told (said : List Saying) (s : Setting) : Option s.Value → Prop
  | some value => ∃ text, .setting s text ∈ said ∧ s.Means text value
  | none => ∀ text, .setting s text ∉ said

/-- What was said about a setting, or else what holds without being said. -/
def ToldOr (said : List Saying) (s : Setting) (otherwise value : s.Value) : Prop :=
  Told said s (some value) ∨ Told said s none ∧ value = otherwise

/-- **Settings hold what was said**, and nothing else. -/
structure Settings.Hold (settings : Settings) (said : List Saying) : Prop where
  total : Told said .total (some settings.total)
  width : ToldOr said .width (40 : UInt64) settings.width
  fill : ToldOr said .fill '#' settings.fill
  style : Told said .style settings.style
  caps : Told said .caps settings.caps
  template : Told said .template settings.template
  delimiter : ToldOr said .delimiter '\n' settings.delimiter
  percent : settings.percent = true ↔ .switch .percent ∈ said
  count : settings.count = true ↔ .switch .count ∈ said
  debug : settings.debug = true ↔ .switch .debug ∈ said

section Rest

variable {said : List Saying} {saying : Saying} {words before rest : List String}

/-- What is said in two parts is spelled by the words of both, one after the other. -/
theorem Spelled.append {more : List Saying} {behind : List String} (spelled : Spelled said words)
    (following : Spelled more behind) : Spelled (said ++ more) (words ++ behind) := by
  induction spelled with
  | nothing => exact following
  | more first _ ih =>
    rw [List.append_assoc]
    exact .more first ih

/-- **Right words stay right** with one thing more that is new and fits. -/
theorem Right.append (right : Right said before) (spelled : saying.Spelled words)
    (new : saying.key ∉ said.map Saying.key) (fits : saying.Fits) :
    Right (said ++ [saying]) (before ++ words) := by
  refine ⟨?_, ?_, ?_⟩
  · have alone := Spelled.more spelled .nothing
    rw [List.append_nil] at alone
    exact right.spelled.append alone
  · rw [List.map_append, List.nodup_append]
    refine ⟨right.once, List.pairwise_singleton _ _, ?_⟩
    intro key mem other own same
    rw [List.map_singleton, List.mem_singleton] at own
    exact new (own ▸ same ▸ mem)
  · intro other mem
    rcases List.mem_append.mp mem with earlier | last
    · exact right.fits other earlier
    · exact List.mem_singleton.mp last ▸ fits

end Rest

end ProgressBar.CommandLine
