/-! Reading unsigned decimal integers below a bound. -/

namespace VolumePlugin.Text

/-- Why a text is no unsigned integer. -/
inductive IntegerError where
  | empty
  | invalidDigit
  | tooLarge
  deriving DecidableEq, Repr

def IntegerError.message : IntegerError → String
  | .empty => "cannot parse integer from empty string"
  | .invalidDigit => "invalid digit found in string"
  | .tooLarge => "number too large to fit in target type"

def digit? (c : Char) : Option Nat :=
  if '0' ≤ c ∧ c ≤ '9' then some (c.toNat - '0'.toNat) else none

/-- Reads the remaining digits from left to right, so the first fault decides the error. -/
def readDigits (bound : Nat) : Nat → List Char → Except IntegerError Nat
  | value, [] => .ok value
  | value, c :: cs =>
    match digit? c with
    | none => .error .invalidDigit
    | some d =>
      if 10 * value + d < bound then readDigits bound (10 * value + d) cs else .error .tooLarge

/-- An unsigned integer below the bound is an optional plus sign and at least one digit. -/
def readUnsigned (bound : Nat) : List Char → Except IntegerError Nat
  | [] => .error .empty
  | ['+'] => .error .invalidDigit
  | '+' :: c :: cs => readDigits bound 0 (c :: cs)
  | c :: cs => readDigits bound 0 (c :: cs)

/-- The number of values of a 64-bit word. -/
def wordBound : Nat := 0x10000000000000000

/-- The number of values of a 32-bit word. -/
def halfWordBound : Nat := 0x100000000

end VolumePlugin.Text
