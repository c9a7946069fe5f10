/-! Lengths in placeholders: decimal numerals up to a limit. -/
namespace TemplateFill

/-- The greatest length that is generated, in characters or octets. -/
def maxLength : Nat := 1 <<< 20

/-- Why an argument is no length. -/
inductive LengthError where
  | notNumeral (argument : String)
  | tooLarge (argument : String)
  | overLimit (length : Nat)
  deriving DecidableEq, Repr

def LengthError.message : LengthError → String
  | .notNumeral argument => s!"'{argument}' is not a non-negative integer"
  | .tooLarge argument => s!"'{argument}' is too large"
  | .overLimit length => s!"{length} exceeds the maximum of {maxLength}"

/-- Reads a length. Numbers that do not fit 64 bits are too large to be named. -/
def parseLength (argument : String) : Except LengthError Nat :=
  let digits := argument.toList
  if digits.isEmpty || !digits.all Char.isDigit then .error (.notNumeral argument)
  else
    let n := Nat.ofDigitChars 10 digits 0
    if UInt64.size ≤ n then .error (.tooLarge argument)
    else if maxLength < n then .error (.overLimit n)
    else .ok n

end TemplateFill
