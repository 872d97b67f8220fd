import ProgressBar.Bar.Basic
import ProgressBar.Style

/-!
# Changing a bar

What may be changed once a bar is built: everything but its width and its total. A setter works on
the bar in its place and touches one field of it. Five of the setters have a twin, which takes a bar
by value and hands it on changed, so that a bar can be changed on the way of being built; the
progress is set and moved in its place alone.

A change is a value, so a run of changes can be looked at before it is made. A style that is not
found changes nothing.

A bar under work has a copy put aside, to which it can be returned. Work goes step by step, and a
step that fails is passed over.
-/

namespace ProgressBar

/-- **A change to a bar.** -/
inductive Edit where
  /-- Set the progress, also to a value outside of the total. -/
  | setCurrent (value : Int64)
  /-- Move the progress forward. -/
  | advance (steps : Nat)
  | showPercent (shown : Bool)
  | showCount (shown : Bool)
  | setCaps (first last : Char)
  | setTemplate (template : String)
  /-- Take the symbol of a style. -/
  | setStyle (style : Style.Request)
  deriving DecidableEq, Repr

/-- **How a change is made**: to a bar in its place, or to one that is handed on by value. -/
inductive Edit.Form where
  | inPlace
  | byValue
  deriving DecidableEq, Repr

namespace Bar

/-! ## Setters -/

/-- Set the progress, out of range or not. -/
def update (value : Int64) : StateM Bar Unit := modify ({ · with current := value })

/-- Show or hide the percentage. -/
def setShowPercent (shown : Bool) : StateM Bar Unit := modify ({ · with showsPercent := shown })

/-- Show or hide the counter. -/
def setShowCount (shown : Bool) : StateM Bar Unit := modify ({ · with showsCount := shown })

/-- Set the characters around the cells. -/
def setCaps (first last : Char) : StateM Bar Unit := modify ({ · with caps := (first, last) })

/-- Set the layout of the line. -/
def setTemplate (template : String) : StateM Bar Unit := modify ({ · with template })

/-- Take the symbol of a style. -/
def setStyle (style : Style) : StateM Bar Unit := modify ({ · with fill := style.fill })

/-- **A bar handed on by value**, once a setter has worked on it. -/
def handOn (bar : Bar) (setter : StateM Bar Unit) : Bar := (setter.run bar).2

/-- A bar with its percentage shown or hidden. -/
def withPercent (bar : Bar) (shown : Bool) : Bar := bar.handOn (setShowPercent shown)

/-- A bar with its counter shown or hidden. -/
def withCount (bar : Bar) (shown : Bool) : Bar := bar.handOn (setShowCount shown)

/-- A bar with other caps. -/
def withCaps (bar : Bar) (first last : Char) : Bar := bar.handOn (setCaps first last)

/-- A bar with another template. -/
def withTemplate (bar : Bar) (template : String) : Bar := bar.handOn (setTemplate template)

/-- A bar with the symbol of a style. -/
def withStyle (bar : Bar) (style : Style) : Bar := bar.handOn (setStyle style)

/-! ## Changes -/

/-- **A bar after a change** in its place, which fails only when it names an unknown style. -/
def edit (bar : Bar) : Edit → Except Style.Unknown Bar
  | .setCurrent value => .ok ((update value).run bar).2
  | .advance steps => .ok (bar.advance steps)
  | .showPercent shown => .ok ((setShowPercent shown).run bar).2
  | .showCount shown => .ok ((setShowCount shown).run bar).2
  | .setCaps first last => .ok ((setCaps first last).run bar).2
  | .setTemplate template => .ok ((setTemplate template).run bar).2
  | .setStyle style => style.resolve.map fun style => ((setStyle style).run bar).2

/-- **A bar after a change in a form.** By value a change is made by its twin; the changes of the
progress have none and are made in place. -/
def editAs (bar : Bar) : Edit.Form → Edit → Except Style.Unknown Bar
  | .byValue, .showPercent shown => .ok (bar.withPercent shown)
  | .byValue, .showCount shown => .ok (bar.withCount shown)
  | .byValue, .setCaps first last => .ok (bar.withCaps first last)
  | .byValue, .setTemplate template => .ok (bar.withTemplate template)
  | .byValue, .setStyle style => style.resolve.map bar.withStyle
  | _, change => bar.edit change

/-- **A twin does what its setter does.** There is one case for each twin, so that a twin that
called another setter would be found out here. -/
theorem editAs_eq_edit (bar : Bar) (form : Edit.Form) (change : Edit) :
    bar.editAs form change = bar.edit change := by
  cases form with
  | inPlace => cases change <;> rfl
  | byValue =>
    cases change with
    | setStyle style => cases found : style.resolve <;> rw [editAs, edit, found] <;> rfl
    | _ => rfl

/-- A bar after a change, or as it was when the change fails. -/
def editOrKeep (bar : Bar) (change : Edit) : Bar :=
  match bar.edit change with
  | .ok edited => edited
  | .error _ => bar

/-- **A bar after a run of changes**, of which those that fail are passed over. -/
def editAll (bar : Bar) (changes : List Edit) : Bar := changes.foldl editOrKeep bar

/-- **A bar after a run of changes, each in a form of its own**, of which those that fail are passed
over. -/
def editAllAs (bar : Bar) (changes : List (Edit.Form × Edit)) : Bar :=
  changes.foldl
    (fun bar (form, change) =>
      match bar.editAs form change with
      | .ok edited => edited
      | .error _ => bar)
    bar

/-- **In which form the changes are made does not matter**, nor whether the forms are mixed within a
run. -/
theorem editAllAs_eq_editAll (bar : Bar) (changes : List (Edit.Form × Edit)) :
    bar.editAllAs changes = bar.editAll (changes.map Prod.snd) := by
  rw [editAllAs, editAll, List.foldl_map]
  simp only [editAs_eq_edit]
  rfl

/-- No change makes the bar wider or narrower. -/
theorem width_editOrKeep (bar : Bar) (change : Edit) :
    (bar.editOrKeep change).width = bar.width := by
  unfold editOrKeep
  cases change with
  | setStyle style => cases h : style.resolve <;> rw [edit, h] <;> rfl
  | _ => rfl

/-- No change touches the value that stands for all of the work. -/
theorem total_editOrKeep (bar : Bar) (change : Edit) :
    (bar.editOrKeep change).total = bar.total := by
  unfold editOrKeep
  cases change with
  | setStyle style => cases h : style.resolve <;> rw [edit, h] <;> rfl
  | _ => rfl

end Bar

/-- **A bar under work** and the copy of it that was put aside. -/
structure Draft where
  bar : Bar
  saved : Bar
  deriving DecidableEq

namespace Draft

/-- A bar of which the copy put aside is the bar itself. -/
def ofBar (bar : Bar) : Draft := ⟨bar, bar⟩

/-- Put a copy of the bar aside. -/
def save (draft : Draft) : Draft := { draft with saved := draft.bar }

/-- Return to the copy put aside. -/
def restore (draft : Draft) : Draft := { draft with bar := draft.saved }

/-- A change to the bar; the copy stays. -/
def edit (draft : Draft) (change : Edit) : Except Style.Unknown Draft :=
  (draft.bar.edit change).map fun bar => { draft with bar }

/-- Whether the bar is what it was when the copy was put aside. -/
def isUnchanged (draft : Draft) : Bool := draft.bar == draft.saved

/-- **A step of the work**: a change, or a use of the copy put aside. -/
inductive Step where
  | change (change : Edit)
  | save
  | restore
  deriving DecidableEq, Repr

/-- **A draft after a step**, or as it was when the step is a change that fails. -/
def step (draft : Draft) : Step → Draft
  | .change change =>
    match draft.edit change with
    | .ok edited => edited
    | .error _ => draft
  | .save => draft.save
  | .restore => draft.restore

/-- **A draft after several steps.** -/
def run (draft : Draft) (steps : List Step) : Draft := steps.foldl step draft

/-- A change works on the bar alone. -/
theorem step_change (draft : Draft) (change : Edit) :
    draft.step (.change change) = { draft with bar := draft.bar.editOrKeep change } := by
  rw [step, edit, Bar.editOrKeep]
  cases draft.bar.edit change <;> rfl

end Draft

end ProgressBar
