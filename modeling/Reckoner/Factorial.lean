import Reckoner.ArithmeticError
import Reckoner.Event.Basic

/-!
# Factorial

The factorial of a signed 64-bit word is computed with the word's own multiplication, which
drops everything above 64 bits. A negative argument is refused.

* `wrappedProduct n` is `1 · 2 · … · n` in 64-bit words.
* `factorial` refuses negative arguments and reports the others.
-/

namespace Reckoner

/-- The product of the words `1` to `n`, dropping what does not fit into 64 bits. -/
def wrappedProduct (n : Nat) : Int64 :=
  n.fold (fun i _ product => product * Int64.ofNat (i + 1)) 1

/-- The target of the factorial's diagnostics. -/
def factorialTarget : String := "abacus_core::utils"

/-- Reports a factorial that is computed. -/
def computingFactorial (n : Int64) : Event :=
  .diagnostic .debug factorialTarget "computing factorial" [⟨"n", .ofInt n.toInt⟩]

/-- The factorial of a word. -/
def factorial (n : Int64) : Recorded (Except ArithmeticError Int64) := do
  if n < 0 then
    return .error (.negativeFactorial n)
  else
    .report (computingFactorial n)
    return .ok (wrappedProduct n.toNatClampNeg)

end Reckoner
