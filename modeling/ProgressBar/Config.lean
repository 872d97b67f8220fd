/-!
# Configurations

What is fixed when a bar is built, and why a configuration may be refused. A configuration is
**valid** when its total is positive: the total is what the progress is divided by.

**What validity does not say.** A valid configuration may still be too wide to be written out as
text (`ProgressBar.Bar.line?`).
-/

namespace ProgressBar

/-- **A configuration**: the symbol of a completed cell, the number of cells, and the value that
stands for 100 %. -/
structure Config where
  fill : Char
  width : UInt64
  total : Int64
  deriving DecidableEq, Repr

/-- **Why no bar can be built.** -/
inductive ConfigError where
  | totalNotPositive (total : Int64)
  /-- The length of what is to be followed has no upper bound. -/
  | unboundedLength
  /-- The length of what is to be followed is beyond every total. -/
  | lengthTooLarge (length : Nat)
  /-- Refused for a reason in the caller's words. -/
  | other (reason : String)
  deriving DecidableEq, Repr

/-- The reason for a refusal. -/
def ConfigError.reason : ConfigError → String
  | .totalNotPositive total => s!"total must be positive, got {total.toInt}"
  | .unboundedLength => "iterator has no upper size bound"
  | .lengthTooLarge length => s!"iterator length {length} is too large"
  | .other reason => reason

/-- **The wording of a refusal.** -/
def ConfigError.message (error : ConfigError) : String :=
  "invalid configuration: " ++ error.reason

/-- A configuration that a bar can be built from. -/
def Config.Valid (config : Config) : Prop := 0 < config.total

instance (config : Config) : Decidable config.Valid :=
  inferInstanceAs (Decidable (0 < config.total))

/-- **The check of a configuration** says no more than whether it is valid. -/
def Config.check (config : Config) : Except ConfigError Unit :=
  if config.Valid then .ok () else .error (.totalNotPositive config.total)

/-- The check passes exactly the valid configurations. It looks at the total and at nothing else. -/
theorem Config.check_eq_ok_iff {config : Config} : config.check = .ok () ↔ config.Valid := by
  unfold Config.check; split <;> simp_all

end ProgressBar
