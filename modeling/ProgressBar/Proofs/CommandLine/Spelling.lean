import ProgressBar.Program.Run
import ProgressBar.Proofs.CommandLine.Values

/-!
# Command lines that write a choice

A **choice** is what a user has in mind: a total, and for every other setting a value or none. It is
written by saying each chosen thing once, in any order. A setting is said in one word with an equals
sign, or in two where its value does not look like an option; a switch is said by its name.

**The law** (`run_of_written`): all command lines that write a choice are understood, and as the
same settings. These are the values chosen, and where none was, the ones that hold otherwise; a
chosen style gives the symbol of the cells, wherever a symbol was said. So all of them run alike,
and asking for diagnostics makes no difference to a run.

What was entered after some words is told by the keys that were said (`Choice.entries`), whatever
their order; a word takes it from the keys before to the keys with its own.

**What it does not establish.** Command lines that say a thing twice, spell it otherwise, or say
nothing of the total.
-/

namespace ProgressBar

namespace CommandLine

/-! ## Choices -/

/-- **A choice of settings.** Nothing is taken as said that was not chosen. -/
structure Choice where
  total : Int64
  width : Option UInt64 := none
  fill : Option Char := none
  style : Option Style.Preset := none
  caps : Option (Char × Char) := none
  template : Option String := none
  delimiter : Option Char := none
  percent : Bool := false
  count : Bool := false
  debug : Bool := false

namespace Choice

/-- **The value that is written** for a setting, if it was chosen. -/
def value? (choice : Choice) : Setting → Option String
  | .total => some (toString choice.total.toInt)
  | .width => choice.width.map fun width => width.toNat.repr
  | .fill => choice.fill.map String.singleton
  | .style => choice.style.map Style.Preset.name
  | .caps => choice.caps.map fun caps => String.ofList [caps.1, caps.2]
  | .template => choice.template
  | .delimiter => choice.delimiter.map String.singleton

/-- Whether a switch was chosen. -/
def isOn (choice : Choice) : Switch → Bool
  | .percent => choice.percent
  | .count => choice.count
  | .debug => choice.debug

/-- **The settings of a choice**: what was chosen, or else what holds without being said. -/
def settings (choice : Choice) : Settings where
  total := choice.total
  width := choice.width.getD 40
  fill := choice.fill.getD '#'
  style := choice.style.map Style.Preset.style
  caps := choice.caps
  template := choice.template
  delimiter := choice.delimiter.getD '\n'
  percent := choice.percent
  count := choice.count
  debug := choice.debug

/-- **The entries of a choice** when some keys have been said. -/
def entries (choice : Choice) (said : List Key) : Entries where
  total := if .setting .total ∈ said then some choice.total else none
  width := if .setting .width ∈ said then choice.width else none
  fill := if .setting .fill ∈ said then choice.fill else none
  style := if .setting .style ∈ said then choice.style.map Style.Preset.style else none
  caps := if .setting .caps ∈ said then choice.caps else none
  template := if .setting .template ∈ said then choice.template else none
  delimiter := if .setting .delimiter ∈ said then choice.delimiter else none
  percent := .switch .percent ∈ said && choice.percent
  count := .switch .count ∈ said && choice.count
  debug := .switch .debug ∈ said && choice.debug

end Choice

/-! ## Writing -/

/-- **Something said**: a setting with its value, or a switch. -/
inductive Saying where
  | setting (setting : Setting) (value : String)
  | switch (switch : Switch)
  deriving DecidableEq, Repr

/-- What is said something about. -/
def Saying.key : Saying → Key
  | setting s _ => .setting s
  | switch s => .switch s

/-- What a choice says about a key, if anything. -/
def Choice.saying? (choice : Choice) : Key → Option Saying
  | .setting s => (choice.value? s).map (.setting s)
  | .switch s => if choice.isOn s then some (.switch s) else none
  | .inquiry _ => none

/-- **All that a choice says**, key by key. -/
def Choice.sayings (choice : Choice) : List Saying := Key.all.filterMap choice.saying?

/-- The option of a key. -/
def option (key : Key) : String := "--" ++ key.name

/-- **How something is said in words.** A value stands behind an equals sign, or in a word of its
own if it does not begin with a dash or is the dash alone. -/
inductive Saying.Spelled : Saying → List String → Prop
  | joined (s : Setting) (value : String) :
    Spelled (.setting s value) [option (.setting s) ++ "=" ++ value]
  | apart (s : Setting) (value : String) (plain : value.toList.head? ≠ some '-' ∨ value = "-") :
    Spelled (.setting s value) [option (.setting s), value]
  | alone (s : Switch) : Spelled (.switch s) [option (.switch s)]

/-- **Arguments that say some things** one after the other, each in a spelling of its own. -/
inductive Spelled : List Saying → List String → Prop
  | nothing : Spelled [] []
  | more {saying : Saying} {words : List String} {rest : List Saying} {behind : List String}
    (first : saying.Spelled words) (following : Spelled rest behind) :
    Spelled (saying :: rest) (words ++ behind)

/-- **A choice is written as some arguments**: they say all that it says, each thing once, in
whatever order. -/
def Choice.WrittenAs (choice : Choice) (arguments : List String) : Prop :=
  ∃ said, Spelled said arguments ∧ said.Perm choice.sayings

/-- The list of keys is complete. -/
theorem Key.mem_all (key : Key) : key ∈ all :=
  List.mem_of_find?_eq_some (ofName?_name key)

namespace Choice

variable {choice : Choice}

theorem key_of_saying? {key : Key} {saying : Saying} (told : choice.saying? key = some saying) :
    saying.key = key := by
  cases key with
  | setting s =>
    obtain ⟨value, -, rfl⟩ := Option.map_eq_some_iff.mp told
    rfl
  | switch s =>
    obtain ⟨-, same⟩ := Option.ite_none_right_eq_some.mp told
    cases same
    rfl
  | inquiry i => cases told

/-- A choice says something exactly if that is what it says of its key, so it says at most one thing
of each. -/
theorem mem_sayings_iff {saying : Saying} :
    saying ∈ choice.sayings ↔ choice.saying? saying.key = some saying := by
  rw [sayings, List.mem_filterMap]
  constructor
  · rintro ⟨key, -, told⟩
    rwa [key_of_saying? told]
  · exact fun told => ⟨saying.key, saying.key.mem_all, told⟩

theorem setting_mem_sayings_iff {s : Setting} {value : String} :
    .setting s value ∈ choice.sayings ↔ choice.value? s = some value := by
  simp [mem_sayings_iff, Saying.key, saying?]

theorem switch_mem_sayings_iff {s : Switch} :
    .switch s ∈ choice.sayings ↔ choice.isOn s = true := by
  simp [mem_sayings_iff, Saying.key, saying?]

/-- **A choice says one thing about a key**, so in no order is anything said twice. -/
theorem nodup_map_key_sayings (choice : Choice) : (choice.sayings.map Saying.key).Nodup := by
  have keys (all : List Key) :
      (all.filterMap choice.saying?).map Saying.key =
        all.filter fun key => (choice.saying? key).isSome := by
    induction all with
    | nil => rfl
    | cons key rest ih =>
      cases told : choice.saying? key with
      | none =>
        rw [List.filterMap_cons_none told, ih, List.filter_cons_of_neg (by simp [told])]
      | some saying =>
        rw [List.filterMap_cons_some told, List.map_cons, ih, key_of_saying? told,
          List.filter_cons_of_pos (by simp [told])]
  rw [sayings, keys]
  exact List.filter_sublist.nodup (by decide)

end Choice

/-! ## Words -/

/-- No key has an equals sign in its name. -/
theorem Key.name_of_key (key : Key) :
    key.name.toList ≠ [] ∧ ∀ c ∈ key.name.toList, (c != '=') = true := by
  rw [← List.all_eq_true]
  rcases key with s | s | i
  · cases s <;> decide
  · cases s <;> decide
  · cases i <;> decide

namespace Word

/-- **A word with a name** is told apart at the first equals sign, if there is none in the name. -/
theorem ofString_long {name argument : String} {rest : List Char}
    (noEquals : ∀ c ∈ name.toList, (c != '=') = true)
    (chars : argument.toList = '-' :: '-' :: (name.toList ++ rest))
    (more : name.toList ++ rest ≠ []) (ends : rest.takeWhile (· != '=') = []) :
    ofString argument = long name (valueOf (rest.dropWhile (· != '='))) := by
  have front : (name.toList ++ rest).takeWhile (· != '=') = name.toList := by
    rw [List.takeWhile_append_of_pos noEquals, ends, List.append_nil]
  have behind : (name.toList ++ rest).dropWhile (· != '=') = rest.dropWhile (· != '=') :=
    List.dropWhile_append_of_pos noEquals
  have read : ofChars ('-' :: '-' :: (name.toList ++ rest)) =
      long (String.ofList ((name.toList ++ rest).takeWhile (· != '=')))
        (valueOf ((name.toList ++ rest).dropWhile (· != '='))) := by
    cases spelled : name.toList ++ rest with
    | nil => exact absurd spelled more
    | cons c others => rfl
  rw [ofString, chars, read, front, behind, String.ofList_toList]

/-- A name alone brings no value along. -/
theorem ofString_name {name : String} (noEquals : ∀ c ∈ name.toList, (c != '=') = true)
    (nonempty : name ≠ "") : ofString ("--" ++ name) = long name none := by
  have chars : ("--" ++ name).toList = '-' :: '-' :: (name.toList ++ []) := by
    rw [String.toList_append, List.append_nil]
    rfl
  have more : name.toList ++ [] ≠ [] := by
    rw [List.append_nil]
    exact mt String.toList_eq_nil_iff.mp nonempty
  exact ofString_long noEquals chars more rfl

/-- **A name with an equals sign** brings along all that stands behind the first. -/
theorem ofString_name_value {name : String} (noEquals : ∀ c ∈ name.toList, (c != '=') = true)
    (value : String) : ofString ("--" ++ name ++ "=" ++ value) = long name (some value) := by
  have chars : ("--" ++ name ++ "=" ++ value).toList =
      '-' :: '-' :: (name.toList ++ '=' :: value.toList) := by
    rw [String.toList_append, String.toList_append, String.toList_append, List.append_assoc,
      List.append_assoc]
    rfl
  have nonempty : name.toList ++ '=' :: value.toList ≠ [] :=
    List.append_ne_nil_of_right_ne_nil _ (List.cons_ne_nil _ _)
  rw [ofString_long noEquals chars nonempty rfl, List.dropWhile_cons_of_neg (by decide), valueOf,
    String.ofList_toList]

/-- **An option alone** brings no value along. -/
theorem ofString_option (key : Key) : ofString (option key) = long key.name none := by
  obtain ⟨nonempty, noEquals⟩ := key.name_of_key
  exact ofString_name noEquals (mt String.toList_eq_nil_iff.mpr nonempty)

/-- **An option with an equals sign** brings along all that stands behind the first. -/
theorem ofString_option_value (key : Key) (value : String) :
    ofString (option key ++ "=" ++ value) = long key.name (some value) :=
  ofString_name_value key.name_of_key.2 value

/-- **A value of its own is plain**: it does not begin with a dash, or it is the dash alone. -/
theorem ofString_plain {value : String} (free : value.toList.head? ≠ some '-' ∨ value = "-") :
    ofString value = plain value := by
  rcases free with noDash | rfl
  · rw [ofString, ofChars]
    · rw [String.ofList_toList]
    all_goals
      intros
      simp_all
  · rfl

end Word

/-! ## Entries -/

theorem mapError_ok {α ε ε' : Type} (reason : ε → ε') (value : α) :
    (Except.ok value : Except ε α).mapError reason = .ok value := rfl

/-- **Enter what is said.** -/
def Entries.say (entries : Entries) : Saying → Except UsageError Entries
  | .setting s value => entries.enter s value
  | .switch s => entries.turnOn s

namespace Choice

variable {choice : Choice} {said : List Key}

/-- As long as a setting has not been said it has no entry, so it may be said. -/
theorem has_entries_of_not_mem {s : Setting} (new : .setting s ∉ said) :
    (choice.entries said).has s = false := by
  cases s <;> simp only [Entries.has, entries, new, if_false, Option.isSome_none]

/-- As long as a switch has not been said it is off, so it may be said. -/
theorem isOn_entries_of_not_mem {s : Switch} (new : .switch s ∉ said) :
    (choice.entries said).isOn s = false := by
  cases s <;> simp only [Entries.isOn, entries, new, decide_false, Bool.false_and]

/-- A chosen value does for its setting, and is what is entered. -/
theorem set_entries {s : Setting} {value : String} (holds : choice.value? s = some value) :
    (choice.entries said).set s value = .ok (choice.entries (said ++ [.setting s])) := by
  cases s with
  | total =>
    cases holds
    rw [Entries.set, Text.readSigned_toString]
    simp [mapError_ok, Except.map, entries]
  | width =>
    obtain ⟨width, chosen, rfl⟩ := Option.map_eq_some_iff.mp holds
    rw [Entries.set, Text.readUnsigned_repr]
    simp [mapError_ok, Except.map, entries, chosen]
  | fill =>
    obtain ⟨fill, chosen, rfl⟩ := Option.map_eq_some_iff.mp holds
    rw [Entries.set, readCharacter_singleton]
    simp [Except.map, entries, chosen]
  | style =>
    obtain ⟨preset, chosen, rfl⟩ := Option.map_eq_some_iff.mp holds
    rw [Entries.set, readStyle_name]
    simp [Except.map, entries, chosen]
  | caps =>
    obtain ⟨caps, chosen, rfl⟩ := Option.map_eq_some_iff.mp holds
    rw [Entries.set, readCaps_ofList]
    simp [Except.map, entries, chosen]
  | template =>
    have chosen : choice.template = some value := holds
    simp [Entries.set, entries, chosen]
  | delimiter =>
    obtain ⟨delimiter, chosen, rfl⟩ := Option.map_eq_some_iff.mp holds
    rw [Entries.set, readCharacter_singleton]
    simp [Except.map, entries, chosen]

/-- A chosen style is no empty word. -/
theorem isEmpty_of_style {value : String} (holds : choice.value? .style = some value) :
    value.isEmpty = false := by
  obtain ⟨preset, -, rfl⟩ := Option.map_eq_some_iff.mp holds
  exact preset.name_ne_empty

/-- **What a choice says is entered** if nothing was said of it before, and then the entries hold
that, too. -/
theorem say_entries {saying : Saying} (holds : saying ∈ choice.sayings)
    (new : saying.key ∉ said) :
    (choice.entries said).say saying = .ok (choice.entries (said ++ [saying.key])) := by
  cases saying with
  | setting s value =>
    rw [setting_mem_sayings_iff] at holds
    have given : ¬ (s = .style ∧ value.isEmpty = true) := by
      rintro ⟨rfl, empty⟩
      rw [isEmpty_of_style holds] at empty
      cases empty
    rw [Entries.say, Entries.enter, has_entries_of_not_mem new, if_neg Bool.false_ne_true,
      if_neg given, set_entries holds]
    rfl
  | switch s =>
    rw [switch_mem_sayings_iff] at holds
    have entered : (choice.entries said).turnOn s =
        .ok (choice.entries (said ++ [.switch s])) := by
      unfold Entries.turnOn
      rw [isOn_entries_of_not_mem new, if_neg Bool.false_ne_true]
      cases s with
      | percent => simp [entries, show choice.percent = true from holds]
      | count => simp [entries, show choice.count = true from holds]
      | debug => simp [entries, show choice.debug = true from holds]
    exact entered

/-- **When a choice has said all**, the entries are its settings. What it has not chosen is as it is
without being said. -/
theorem settings_entries (all : ∀ saying ∈ choice.sayings, saying.key ∈ said) :
    (choice.entries said).settings = .ok choice.settings := by
  have chosen {α : Type} {s : Setting} (field : Option α)
      (same : field.isSome = (choice.value? s).isSome) :
      (if Key.setting s ∈ said then field else none) = field := by
    cases field with
    | none => exact ite_self none
    | some content =>
      obtain ⟨value, holds⟩ := Option.isSome_iff_exists.mp same.symm
      exact if_pos (all (.setting s value) (setting_mem_sayings_iff.mpr holds))
  have turned (s : Switch) : (decide (Key.switch s ∈ said) && choice.isOn s) = choice.isOn s := by
    cases on : choice.isOn s with
    | false => exact Bool.and_false _
    | true =>
      have mem : Key.switch s ∈ said := all (.switch s) (switch_mem_sayings_iff.mpr on)
      rw [decide_eq_true mem, Bool.and_true]
  have whole : choice.entries said =
      { total := some choice.total
        width := choice.width
        fill := choice.fill
        style := choice.style.map Style.Preset.style
        caps := choice.caps
        template := choice.template
        delimiter := choice.delimiter
        percent := choice.percent
        count := choice.count
        debug := choice.debug } := by
    rw [entries, chosen (s := .total) (some choice.total) rfl,
      chosen (s := .width) choice.width Option.isSome_map.symm,
      chosen (s := .fill) choice.fill Option.isSome_map.symm,
      chosen (s := .style) (choice.style.map _) (Option.isSome_map.trans Option.isSome_map.symm),
      chosen (s := .caps) choice.caps Option.isSome_map.symm,
      chosen (s := .template) choice.template rfl,
      chosen (s := .delimiter) choice.delimiter Option.isSome_map.symm]
    congr
    · exact turned .percent
    · exact turned .count
    · exact turned .debug
  rw [whole]
  rfl

end Choice

/-! ## Scans -/

/-- **Where the reading stands**: dashes mean something, and settling what waits gives some
entries. -/
structure Scan.StandsAt (scan : Scan) (entries : Entries) : Prop where
  meant : scan.isLiteral = false
  settles : scan.settle = .ok { entries }

namespace Scan

variable {scan : Scan} {entries next : Entries}

/-- As long as dashes mean something, a word with the name of a key is read as that key. -/
theorem read_long (meant : scan.isLiteral = false) {argument : String} {key : Key}
    {value : Option String} (word : Word.ofString argument = .long key.name value) :
    scan.read argument = scan.readKey key value := by
  rw [read, meant, if_neg Bool.false_ne_true, word]
  dsimp only
  rw [Key.ofName?_name]

/-- **Words that say something take the reading on**, from some entries to those with it. -/
theorem StandsAt.foldlM_spelled (stands : scan.StandsAt entries) {saying : Saying}
    (told : entries.say saying = .ok next) {words : List String} (spelled : saying.Spelled words) :
    ∃ later, words.foldlM Scan.read scan = .ok later ∧ later.StandsAt next := by
  obtain ⟨meant, settles⟩ := stands
  cases spelled with
  | joined s value =>
    have entered : entries.enter s value = .ok next := told
    refine ⟨{ entries := next }, ?_, rfl, rfl⟩
    rw [List.foldlM_cons, read_long meant (Word.ofString_option_value (.setting s) value), readKey,
      settles]
    simp [bind, Except.bind, entered, mapError_ok, pure, Except.pure]
  | apart s value plain =>
    have entered : entries.enter s value = .ok next := told
    refine ⟨{ entries, pending := some (s, some value) }, ?_, rfl, ?_⟩
    · rw [List.foldlM_cons, read_long meant (Word.ofString_option (.setting s)), readKey, settles]
      simp [bind, Except.bind, Except.map, mapError_ok, pure, Except.pure, read,
        Word.ofString_plain plain, readPlain]
    · simp [settle, entered, Except.map]
  | alone s =>
    have entered : entries.turnOn s = .ok next := told
    refine ⟨{ entries := next }, ?_, rfl, rfl⟩
    rw [List.foldlM_cons, read_long meant (Word.ofString_option (.switch s)), readKey, settles]
    simp [bind, Except.bind, entered, mapError_ok, pure, Except.pure]

end Scan

/-- **Words that say some things are read** thing by thing. What is known of the entries after the
things said so far is carried on by every single one. -/
theorem foldlM_spelled {said : List Saying} {arguments : List String}
    (spelled : Spelled said arguments) (Known : List Saying → Entries → Prop) {scan : Scan}
    {entries : Entries} (stands : scan.StandsAt entries) (start : Known [] entries)
    (step : ∀ past saying behind, said = past ++ saying :: behind → ∀ entries, Known past entries →
      ∃ next, entries.say saying = .ok next ∧ Known (past ++ [saying]) next) :
    ∃ later next, arguments.foldlM Scan.read scan = .ok later ∧ later.StandsAt next ∧
      Known said next := by
  -- the first thing goes over into what was said before all the others
  induction spelled generalizing scan entries Known with
  | nothing => exact ⟨scan, entries, rfl, stands, start⟩
  | @more saying words rest behind first following ih =>
    obtain ⟨middle, told, known⟩ := step [] saying rest rfl entries start
    obtain ⟨scanMiddle, read, standsMiddle⟩ := stands.foldlM_spelled told first
    obtain ⟨later, next, readRest, standsLater, knownLater⟩ :=
      ih (fun past => Known (saying :: past)) standsMiddle known
        fun past other behind split => step (saying :: past) other behind (by rw [split]; rfl)
    refine ⟨later, next, ?_, standsLater, knownLater⟩
    rw [List.foldlM_append, read]
    exact readRest

/-- **Arguments that write a choice are understood** as its settings, in whatever order and spelling
they write it. -/
theorem read_of_written {choice : Choice} {arguments : List String}
    (written : choice.WrittenAs arguments) : read arguments = .ok choice.settings := by
  obtain ⟨said, spelled, rearranged⟩ := written
  have once : (said.map Saying.key).Nodup :=
    (rearranged.map Saying.key).nodup_iff.mpr choice.nodup_map_key_sayings
  have start : Scan.StandsAt {} (choice.entries (([] : List Saying).map Saying.key)) :=
    ⟨rfl, rfl⟩
  obtain ⟨later, _, folded, ⟨-, settles⟩, rfl⟩ := foldlM_spelled spelled
    (fun past entries => entries = choice.entries (past.map Saying.key)) start rfl <| by
      rintro past saying behind rfl _ rfl
      have new : saying.key ∉ past.map Saying.key := by
        rw [List.map_append, List.map_cons, List.nodup_append] at once
        exact fun mem => once.2.2 _ mem _ List.mem_cons_self rfl
      have holds : saying ∈ choice.sayings :=
        rearranged.mem_iff.mp (List.mem_append_right past List.mem_cons_self)
      refine ⟨_, Choice.say_entries holds new, ?_⟩
      rw [List.map_append, List.map_singleton]
  have whole : (choice.entries (said.map Saying.key)).settings = .ok choice.settings :=
    Choice.settings_entries fun saying mem => List.mem_map_of_mem (rearranged.mem_iff.mpr mem)
  rw [CommandLine.read, folded]
  simp [bind, Except.bind, Scan.finish, settles, whole, mapError_ok]

end CommandLine

/-! ## Runs -/

namespace Program

open CommandLine (Choice Saying Spelled)

/-- Whether diagnostics are wanted makes no difference to a run of settings. -/
theorem runSettings_debug (settings : CommandLine.Settings) (debug : Bool) (input : Input)
    (console : Console) :
    runSettings { settings with debug } input console = runSettings settings input console := rfl

/-- **Command lines that write a choice.** Take arguments that say all of a choice and nothing else,
each thing once, in any order and any of its spellings. They are understood, as the settings of the
choice. If the total is positive, the bar is built with just the values chosen, and nothing done
yet; for what was not chosen stand a hash sign, square brackets, forty cells and the standard
template, and a chosen style gives the symbol whatever was chosen for it. Every other arguments that
write the choice, with diagnostics or without, make for the same run on every input and output. -/
theorem run_of_written (choice : Choice) (arguments : List String)
    (written : choice.WrittenAs arguments) :
    CommandLine.read arguments = .ok choice.settings ∧
      (∀ (positive : 0 < choice.total) (console : Console),
        (choice.settings.build console).1 = .ok
          { fill := (choice.style.map fun preset => preset.style.fill).getD
              (choice.fill.getD '#')
            caps := choice.caps.getD ('[', ']')
            width := choice.width.getD 40
            total := choice.total
            current := 0
            showsPercent := choice.percent
            showsCount := choice.count
            template := choice.template.getD Template.standard
            total_pos := positive }) ∧
      ∀ (others : List String) (debug : Bool), { choice with debug }.WrittenAs others →
        ∀ (input : Input) (stdout : Sink),
          run others input stdout = run arguments input stdout := by
  have own : CommandLine.read arguments = .ok choice.settings :=
    CommandLine.read_of_written written
  refine ⟨own, ?_, ?_⟩
  · intro positive console
    have built : Bar.ofConfig choice.settings.config = .ok _ := dif_pos positive
    rw [CommandLine.Settings.build, Bar.build, built]
    cases style : choice.style <;>
      simp [Except.map, CommandLine.Settings.lay, Choice.settings, CommandLine.Settings.config,
        style]
  · intro others debug writtenToo input stdout
    have other : CommandLine.read others = .ok { choice.settings with debug } :=
      CommandLine.read_of_written writtenToo
    rw [run, run, own, other]
    dsimp only
    rw [runSettings_debug]

/-- A style before a symbol, caps that look like an option, a template with an equals sign and a
brace, and a dash alone that ends the records; and the same in another order with diagnostics. -/
theorem run_of_written_two_orders :
    let choice : Choice :=
      { total := 4, fill := '=', style := some ⟨("block", .block), by decide⟩,
        caps := ('-', '>'), template := "a=\x7b", delimiter := '-', percent := true }
    let arguments := ["--style", "block", "--fill", "=", "--caps=->", "--template=a=\x7b",
      "--delim", "-", "--percent", "--total=4"]
    let others := ["--debug", "--total", "4", "--delim=-", "--template", "a=\x7b", "--fill==",
      "--percent", "--caps=->", "--style=block"]
    choice.WrittenAs arguments ∧ { choice with debug := true }.WrittenAs others ∧
      CommandLine.read arguments = .ok choice.settings ∧
      run others (.bytes [97, 45]) .unlimited = run arguments (.bytes [97, 45]) .unlimited := by
  intro choice arguments others
  have written : choice.WrittenAs arguments := by
    refine ⟨[.setting .style "block", .setting .fill "=", .setting .caps "->",
      .setting .template "a=\x7b", .setting .delimiter "-", .switch .percent,
      .setting .total "4"], ?_, by decide⟩
    exact .more (.apart _ _ (by decide)) <| .more (.apart _ _ (by decide)) <|
      .more (.joined _ _) <| .more (.joined _ _) <| .more (.apart _ _ (by decide)) <|
      .more (.alone _) <| .more (.joined _ _) .nothing
  have writtenToo : { choice with debug := true }.WrittenAs others := by
    refine ⟨[.switch .debug, .setting .total "4", .setting .delimiter "-",
      .setting .template "a=\x7b", .setting .fill "=", .switch .percent, .setting .caps "->",
      .setting .style "block"], ?_, by decide⟩
    exact .more (.alone _) <| .more (.apart _ _ (by decide)) <| .more (.joined _ _) <|
      .more (.apart _ _ (by decide)) <| .more (.joined _ _) <| .more (.alone _) <|
      .more (.joined _ _) <| .more (.joined _ _) .nothing
  obtain ⟨read, -, alike⟩ := run_of_written choice arguments written
  exact ⟨written, writtenToo, read, alike others true writtenToo (.bytes [97, 45]) .unlimited⟩

end Program

end ProgressBar
