/-!
# Decimal numerals of bounded size

A numeral is an optional sign followed by decimal digits, leading zeros allowed. Reading one either
gives the number or says why it cannot: nothing is there, a character is no digit, or the number
passes a bound. The characters are read from left to right and each is first asked to be a digit and
then to keep the number within its bound, so `9…9x` is too large when the bound is passed before the
`x` is reached, and is otherwise no number.

**What it does not hold.** A sign with no digit behind it is no number, and a minus sign is only
read where negative numbers are allowed.
-/

namespace ProgressBar.Text

/-- **Why a text is no number** of the range asked for. -/
inductive NumeralFault where
  | empty
  | invalidDigit
  | tooLarge
  | tooSmall
  deriving DecidableEq, Repr

/-- The wording of a numeral's fault. -/
def NumeralFault.message : NumeralFault → String
  | .empty => "cannot parse integer from empty string"
  | .invalidDigit => "invalid digit found in string"
  | .tooLarge => "number too large to fit in target type"
  | .tooSmall => "number too small to fit in target type"

/-- The value of a decimal digit. -/
def digitValue? (c : Char) : Option Nat :=
  if c.isDigit then some (c.toNat - '0'.toNat) else none

/-- **Digits read from the left**, `sofar` being the number the earlier ones make. `excess` is the
fault of a number beyond `bound`. -/
def readDigits (bound : Nat) (excess : NumeralFault) : Nat → List Char → Except NumeralFault Nat
  | sofar, [] => .ok sofar
  | sofar, c :: rest =>
    match digitValue? c with
    | none => .error .invalidDigit
    | some digit =>
      let value := sofar * 10 + digit
      if value ≤ bound then readDigits bound excess value rest else .error excess

/-- The digits of a numeral without its sign; at least one is needed. -/
def readMagnitude (bound : Nat) (excess : NumeralFault) : List Char → Except NumeralFault Nat
  | [] => .error .invalidDigit
  | digits => readDigits bound excess 0 digits

/-- **A numeral of 64 bits without negative numbers.** -/
def readUnsigned (text : String) : Except NumeralFault UInt64 :=
  UInt64.ofNat <$>
    match text.toList with
    | [] => .error .empty
    | '+' :: digits => readMagnitude (UInt64.size - 1) .tooLarge digits
    | digits => readMagnitude (UInt64.size - 1) .tooLarge digits

/-- **A numeral of 64 bits with negative numbers.** -/
def readSigned (text : String) : Except NumeralFault Int64 :=
  Int64.ofInt <$>
    match text.toList with
    | [] => .error .empty
    | '-' :: digits => (fun n : Nat => -(n : Int)) <$> readMagnitude (1 <<< 63) .tooSmall digits
    | '+' :: digits => Int.ofNat <$> readMagnitude (1 <<< 63 - 1) .tooLarge digits
    | digits => Int.ofNat <$> readMagnitude (1 <<< 63 - 1) .tooLarge digits

end ProgressBar.Text
