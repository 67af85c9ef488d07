/-!
# Rejected arguments

An operation whose argument lies outside its domain computes nothing and says why.
-/

namespace Reckoner

/-- Why an operation refused its argument. -/
inductive ArithmeticError where
  | divisionByZero
  | negativeFactorial (argument : Int64)
deriving DecidableEq, Repr

namespace ArithmeticError

/-- The wording of an error. -/
def message : ArithmeticError → String
  | divisionByZero => "Division by zero is not allowed"
  | negativeFactorial _ => "Factorial is not defined for negative numbers"

/-- Whether the argument is to blame, as it is for every error so far. -/
def isInvalidArgument : ArithmeticError → Bool
  | divisionByZero => true
  | negativeFactorial _ => true

end ArithmeticError

end Reckoner
