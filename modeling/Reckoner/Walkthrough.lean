import Reckoner.Bank
import Reckoner.Factorial
import Reckoner.Line

/-!
# Walkthrough

The walkthrough computes a few things and shows each on a line: four operations of one
calculator, a division that is refused, the number of calculators in a bank of two, and a
factorial. A line is printed as soon as its step is done, after the diagnostics of the step.

Two of the steps would interrupt the walkthrough if they failed.

* `Walkthrough.steps` is the sequence of diagnostics and lines.
-/

namespace Reckoner.Walkthrough

/-- What a step leaves behind. -/
inductive Entry where
  | diagnostic (event : Event)
  | line (line : Line)
deriving DecidableEq, Repr

/-- What the program was doing when an error interrupted it. -/
structure Interruption where
  doing : String
  cause : ArithmeticError
deriving DecidableEq, Repr

/-- A part of the walkthrough, which may be interrupted. -/
abbrev Part (α : Type) := ExceptT Interruption (Trail Entry) α

/-- Does some work and leaves its diagnostics. -/
def work {α : Type} (w : Recorded α) : Part α :=
  ExceptT.lift ⟨w.result, w.entries.map .diagnostic⟩

/-- Prints a line. -/
def print (line : Line) : Part Unit :=
  ExceptT.lift (.report (.line line))

/-- Takes a result, or is interrupted by an error. -/
def require {α : Type} (doing : String) : Except ArithmeticError α → Part α
  | .ok value => pure value
  | .error cause => throw ⟨doing, cause⟩

/-- How many calculators the bank is given. -/
def bankSize : Nat := 2

/-- The argument of the factorial. -/
def factorialArgument : Int64 := 5

/-- The steps in their order. -/
def steps (language : Language) : Part Unit := do
  let phrases := Phrases.ofLanguage language
  let (sum, c₁) ← work (Calculator.fresh.perform .add 5 3)
  print (.ofOutcome phrases "5 + 3" sum)
  let (difference, c₂) ← work (c₁.perform .subtract 10 4)
  print (.ofOutcome phrases "10 - 4" difference)
  let (product, c₃) ← work (c₂.perform .multiply 6 7)
  print (.ofOutcome phrases "6 * 7" product)
  let (quotient, c₄) ← work (c₃.perform .divide 15 3)
  let five ← require "dividing 15 by 3" quotient
  print (.ofOutcome phrases "15 / 3" (.ok five))
  let (refused, _) ← work (c₄.perform .divide 10 0)
  print (.ofOutcome phrases "10 / 0" refused)
  let (_, bank) ← work (Bank.empty.createMany bankSize)
  print .blank
  print (.labeled phrases.calculatorsCreated (Decimal.writeInteger bank.count))
  let argument := Decimal.writeInteger factorialArgument.toInt
  let outcome ← work (factorial factorialArgument)
  let value ← require ("computing the factorial of " ++ argument) outcome
  print (.result (phrases.factorialOf ++ " " ++ argument) (Decimal.writeInteger value.toInt))

end Reckoner.Walkthrough
