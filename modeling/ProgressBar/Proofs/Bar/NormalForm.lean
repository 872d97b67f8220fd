import Mathlib.Algebra.GroupWithZero.Nat
import Mathlib.Data.List.Induction
import ProgressBar.Bar.Edit

/-!
# The normal form of a run of changes

A run of changes may be as long as it likes and go back and forth between the fields of a bar. What
it comes to is found without making it: each change is read as what it says of each field, and of
what is said of a field only the last word counts. The progress is the one field with a memory. It
is where the last jump put it, and the steps since.

**The law** (`editAll_normal`): a bar after a run of changes is the bar before it with each field as
last set. So the changes of different fields may be made in any order, and a change that fails may
as well be left out.

Each change may be made to the bar in its place or, where it has a twin, to a bar that is handed on
by value; the forms may be mixed, and the normal form is the same.
-/

namespace ProgressBar

/-! ## What a change says of each field -/

/-- **What a change does to the progress**: a jump to a value, or a walk of some steps. -/
inductive Motion where
  | jump (value : Int64)
  | walk (steps : Nat)
  deriving DecidableEq, Repr

namespace Motion

/-- Where a jump goes. -/
def target? : Motion → Option Int64
  | jump value => some value
  | walk _ => none

/-- How many steps are walked. -/
def steps : Motion → Nat
  | jump _ => 0
  | walk steps => steps

/-- **The progress after a motion.** -/
def act (current : Int64) : Motion → Int64
  | jump value => value
  | walk steps => current + Int64.ofNat steps

/-- **The steps walked since the last jump.** -/
def stepsSince (motions : List Motion) : Nat :=
  ((motions.reverse.takeWhile fun motion => motion.target?.isNone).map steps).sum

/-- The last jump, or the start if there is none. -/
def origin (start : Int64) (motions : List Motion) : Int64 :=
  (motions.filterMap target?).getLastD start

end Motion

namespace Edit

/-- The symbol a change sets, if it names a style there is. -/
def symbol? : Edit → Option Char
  | setStyle style => style.resolve.toOption.map Style.fill
  | _ => none

/-- The caps a change sets. -/
def caps? : Edit → Option (Char × Char)
  | setCaps first last => some (first, last)
  | _ => none

/-- Whether the percentage is shown from a change on. -/
def percentShown? : Edit → Option Bool
  | showPercent shown => some shown
  | _ => none

/-- Whether the counter is shown from a change on. -/
def countShown? : Edit → Option Bool
  | showCount shown => some shown
  | _ => none

/-- The template a change sets. -/
def template? : Edit → Option String
  | setTemplate template => some template
  | _ => none

/-- What a change does to the progress. -/
def motion? : Edit → Option Motion
  | setCurrent value => some (.jump value)
  | advance steps => some (.walk steps)
  | _ => none

/-- **Two runs of changes say the same of every field**, each in its own order, however the changes
of different fields are mixed. -/
structure SameByField (changes others : List Edit) : Prop where
  symbol : changes.filterMap symbol? = others.filterMap symbol?
  caps : changes.filterMap caps? = others.filterMap caps?
  percentShown : changes.filterMap percentShown? = others.filterMap percentShown?
  countShown : changes.filterMap countShown? = others.filterMap countShown?
  template : changes.filterMap template? = others.filterMap template?
  motion : changes.filterMap motion? = others.filterMap motion?

/-- **A style that is not found** says nothing of any field, and so it can be left out wherever it
stands. -/
theorem sameByField_of_unknown {style : Style.Request} {unknown : Style.Unknown}
    (fails : style.resolve = .error unknown) (before after : List Edit) :
    SameByField (before ++ setStyle style :: after) (before ++ after) := by
  have silent : symbol? (setStyle style) = none := by
    rw [symbol?, fails]
    rfl
  constructor <;> rw [List.filterMap_append, List.filterMap_append]
  · rw [List.filterMap_cons_none silent]
  all_goals rfl

end Edit

/-! ## The last word on a field -/

/-- A word comes before all later ones and takes the place of what held until then. -/
theorem getLastD_filterMap_cons {α β : Type} (read : β → Option α) (word : β) (rest : List β)
    (before : α) :
    ((word :: rest).filterMap read).getLastD before =
      (rest.filterMap read).getLastD ((read word).getD before) := by
  rw [List.filterMap_cons]
  cases read word with
  | none => rfl
  | some value => exact List.getLastD_cons

namespace Motion

/-- A jump starts the count of the steps again. -/
theorem stepsSince_concat_jump (motions : List Motion) (value : Int64) :
    stepsSince (motions ++ [jump value]) = 0 := by
  rw [stepsSince, List.reverse_concat]
  rfl

theorem stepsSince_concat_walk (motions : List Motion) (n : Nat) :
    stepsSince (motions ++ [walk n]) = n + stepsSince motions := by
  rw [stepsSince, List.reverse_concat]
  exact List.sum_cons

/-- Only a jump moves the place that steps are counted from; a walk leaves it where the motions
before it have put it. -/
theorem origin_concat (start : Int64) (motions : List Motion) (motion : Motion) :
    origin start (motions ++ [motion]) = motion.target?.getD (origin start motions) := by
  rw [origin, List.filterMap_append]
  cases motion with
  | jump value => exact List.getLastD_concat
  | walk n => rw [show [walk n].filterMap target? = [] from rfl, List.append_nil]; rfl

/-- **Several motions come to the last jump and the steps since.** What was walked before a jump is
forgotten with it. -/
theorem foldl_act (start : Int64) (motions : List Motion) :
    motions.foldl act start = origin start motions + Int64.ofNat (stepsSince motions) := by
  -- by induction from the end: a jump forgets what was before it, a walk adds to it
  induction motions using List.reverseRecOn with
  | nil => exact (Int64.add_zero start).symm
  | append_singleton motions motion ih =>
    rw [List.foldl_append, ih, origin_concat]
    cases motion with
    | jump value =>
      rw [stepsSince_concat_jump]
      exact (Int64.add_zero value).symm
    | walk n =>
      rw [stepsSince_concat_walk, Nat.add_comm, Int64.ofNat_add, ← Int64.add_assoc]
      rfl

end Motion

namespace Bar

/-- **A change changes what it says**, field by field. Each field is read off the change by itself,
so a change that touched a second field would have to say so. -/
theorem editOrKeep_eq (bar : Bar) (change : Edit) :
    bar.editOrKeep change =
      { bar with
        fill := change.symbol?.getD bar.fill
        caps := change.caps?.getD bar.caps
        current := (change.motion?.map (Motion.act bar.current)).getD bar.current
        showsPercent := change.percentShown?.getD bar.showsPercent
        showsCount := change.countShown?.getD bar.showsCount
        template := change.template?.getD bar.template } := by
  cases change with
  | setStyle style =>
    rw [editOrKeep, edit, Edit.symbol?]
    cases style.resolve <;> rfl
  | _ => rfl

/-- The motions of a run are acted on one by one, and a change without a motion is passed over. -/
theorem foldl_filterMap_cons {change : Edit} {rest : List Edit} {current : Int64} :
    ((change :: rest).filterMap Edit.motion?).foldl Motion.act current =
      (rest.filterMap Edit.motion?).foldl Motion.act
        ((change.motion?.map (Motion.act current)).getD current) := by
  rw [List.filterMap_cons]
  cases change.motion? <;> rfl

/-- **A run of changes changes what it says last**, field by field, and moves the progress motion by
motion. -/
theorem editAll_eq (bar : Bar) (changes : List Edit) :
    bar.editAll changes =
      { bar with
        fill := (changes.filterMap Edit.symbol?).getLastD bar.fill
        caps := (changes.filterMap Edit.caps?).getLastD bar.caps
        current := (changes.filterMap Edit.motion?).foldl Motion.act bar.current
        showsPercent := (changes.filterMap Edit.percentShown?).getLastD bar.showsPercent
        showsCount := (changes.filterMap Edit.countShown?).getLastD bar.showsCount
        template := (changes.filterMap Edit.template?).getLastD bar.template } := by
  induction changes generalizing bar with
  | nil => rfl
  | cons change rest ih =>
    have step : bar.editAll (change :: rest) = (bar.editOrKeep change).editAll rest := rfl
    rw [step, ih, editOrKeep_eq]
    simp only [getLastD_filterMap_cons, foldl_filterMap_cons]

/-- **Steps forward are single steps**, one after the other; a walk of no steps is none. -/
theorem advance_eq_repeat (bar : Bar) (n : Nat) : bar.advance n = Nat.repeat tick n bar := by
  induction n with
  | zero => exact bar.advance_zero
  | succ n ih =>
    calc bar.advance (n + 1) = (bar.advance n).tick := (bar.tick_advance n).symm
      _ = Nat.repeat tick (n + 1) bar := by rw [ih]; rfl

/-- **What a run of changes comes to.** Every field that changes set is as the last of them sets it,
and a field that none sets is as it was. The progress is where the last jump went, or where it was,
and the steps since, wrapped to 64 bits; a walk of some steps is as many single ones. Nothing else
changes, so the width and the total are those the bar was built with. In which form each change is
made, in place or by value, makes no difference. Two runs that say the same of every field make the
same bar, and a change that names no style there is may be left out. -/
theorem editAll_normal (bar : Bar) (changes : List Edit) :
    let motions := changes.filterMap Edit.motion?
    bar.editAll changes =
        { bar with
          fill := (changes.filterMap Edit.symbol?).getLastD bar.fill
          caps := (changes.filterMap Edit.caps?).getLastD bar.caps
          current := Int64.ofInt
            ((Motion.origin bar.current motions).toInt + Motion.stepsSince motions)
          showsPercent := (changes.filterMap Edit.percentShown?).getLastD bar.showsPercent
          showsCount := (changes.filterMap Edit.countShown?).getLastD bar.showsCount
          template := (changes.filterMap Edit.template?).getLastD bar.template } ∧
      (∀ n, bar.advance n = Nat.repeat tick n bar) ∧
      (∀ calls : List (Edit.Form × Edit), calls.map Prod.snd = changes →
        bar.editAllAs calls = bar.editAll changes) ∧
      (∀ others, Edit.SameByField changes others → bar.editAll others = bar.editAll changes) ∧
      ∀ before style after unknown, style.resolve = .error unknown →
        changes = before ++ .setStyle style :: after →
          bar.editAll changes = bar.editAll (before ++ after) := by
  intro motions
  have agree {run others : List Edit} (same : Edit.SameByField run others) :
      bar.editAll others = bar.editAll run := by
    rw [editAll_eq, editAll_eq, same.symbol, same.caps, same.percentShown, same.countShown,
      same.template, same.motion]
  refine ⟨?_, bar.advance_eq_repeat, ?_, fun others same => agree same, ?_⟩
  · rw [editAll_eq, Motion.foldl_act, Int64.ofInt_add, Int64.ofInt_toInt, Int64.ofInt_eq_ofNat]
  · rintro calls rfl
    exact bar.editAllAs_eq_editAll calls
  · rintro before style after unknown fails rfl
    exact (agree (Edit.sameByField_of_unknown fails before after)).symm

/-- A jump to the greatest progress and two steps from there, between changes of other fields and a
style that is not found; the same said in another order, and the same with twins. -/
theorem editAll_normal_two_orders :
    let bar : Bar := ⟨'#', ('[', ']'), 4, 9, 0, false, false, "\x7bcount\x7d", by decide⟩
    let before : List Edit :=
      [.setStyle (.named "block"), .advance 3, .setCurrent Int64.maxValue, .showCount true]
    let after : List Edit := [.advance 2, .setCaps '<' '>', .advance 0]
    let changes := before ++ .setStyle (.named "dots") :: after
    let others : List Edit :=
      [.setCaps '<' '>', .advance 3, .setCurrent Int64.maxValue, .advance 2, .advance 0,
        .showCount true, .setStyle (.symbol '█')]
    let calls : List (Edit.Form × Edit) := changes.map fun change => (.byValue, change)
    (Style.Request.named "dots").resolve = .error .name ∧ Edit.SameByField changes others ∧
      calls.map Prod.snd = changes ∧ bar.editAllAs calls = bar.editAll changes ∧
      bar.editAll others = bar.editAll changes ∧
      bar.editAll changes = bar.editAll (before ++ after) ∧
      bar.editAll changes =
        { bar with
          fill := '█', caps := ('<', '>'), current := Int64.minValue + 1, showsCount := true } := by
  intro bar before after changes others calls
  have fails : (Style.Request.named "dots").resolve = .error .name := rfl
  have same : Edit.SameByField changes others := ⟨rfl, rfl, rfl, rfl, rfl, rfl⟩
  obtain ⟨whole, -, forms, agree, leaveOut⟩ := editAll_normal bar changes
  exact ⟨fails, same, rfl, forms calls rfl, agree others same,
    leaveOut before _ after .name fails rfl, whole.trans rfl⟩

end Bar

end ProgressBar
