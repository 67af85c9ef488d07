import Reckoner.ArithmeticError
import Reckoner.Event.Basic

/-!
# Calculator

A calculator performs one operation at a time and remembers the result of the last one that
succeeded. Operands are binary64 numbers of every kind: infinities and what is not a number are
computed with like all others. Only a zero divisor is refused, whatever its sign, and a refused
division leaves no trace in the memory.

* `Operator.apply` is the arithmetic of an operation.
* `Calculator.perform` applies it, keeps its result and reports it.
* `Calculator.execute` and `Calculator.run` carry out instructions, which may also take the
  last result as an operand.
-/

namespace Reckoner

/-- The four operations. -/
inductive Operator where
  | add
  | subtract
  | multiply
  | divide
deriving DecidableEq, Repr

namespace Operator

/-- The result of an operation depends on its operands alone. -/
def apply : Operator → Float → Float → Except ArithmeticError Float
  | add, a, b => .ok (a + b)
  | subtract, a, b => .ok (a - b)
  | multiply, a, b => .ok (a * b)
  | divide, a, b => if b == 0 then .error .divisionByZero else .ok (a / b)

/-- What a diagnostic calls the operation. -/
def noun : Operator → String
  | add => "addition"
  | subtract => "subtraction"
  | multiply => "multiplication"
  | divide => "division"

end Operator

/-- A calculator is its last result. -/
structure Calculator where
  lastResult : Float
deriving DecidableEq

namespace Calculator

/-- A calculator that has not computed anything. -/
def fresh : Calculator where
  lastResult := 0

/-! ## Operations -/

/-- The target of a calculator's diagnostics. -/
def target : String := "abacus_core::calculator"

/-- Reports an operation that is carried out. -/
def performing (operator : Operator) (a b : Float) : Event :=
  .diagnostic .debug target ("performing " ++ operator.noun)
    [⟨"a", .ofFloat a⟩, ⟨"b", .ofFloat b⟩]

/-- Reports a division that is refused. -/
def rejected (a : Float) : Event :=
  .diagnostic .warn target "rejected division by zero" [⟨"a", .ofFloat a⟩]

/-- Performs an operation. A result is remembered; after an error the calculator is unchanged. -/
def perform (calculator : Calculator) (operator : Operator) (a b : Float) :
    Recorded (Except ArithmeticError Float × Calculator) := do
  match operator.apply a b with
  | .ok value =>
    .report (performing operator a b)
    return (.ok value, ⟨value⟩)
  | .error cause =>
    .report (rejected a)
    return (.error cause, calculator)

/-! ## Instructions -/

/-- An operand is given or is the last result. -/
inductive Operand where
  | number (x : Float)
  | lastResult
deriving DecidableEq

/-- The value of an operand. -/
def Operand.value (calculator : Calculator) : Operand → Float
  | number x => x
  | lastResult => calculator.lastResult

/-- What a calculator can be told to do. -/
inductive Instruction where
  | compute (operator : Operator) (a b : Operand)
  | clear
deriving DecidableEq

/-- The answer to an instruction: clearing has none. -/
abbrev Answer := Option (Except ArithmeticError Float)

/-- Carries out one instruction. -/
def execute (calculator : Calculator) : Instruction → Recorded (Answer × Calculator)
  | .compute operator a b => do
    let (answer, next) ← calculator.perform operator (a.value calculator) (b.value calculator)
    return (some answer, next)
  | .clear => return (none, fresh)

/-- Carries out instructions one after the other. -/
def run (calculator : Calculator) : List Instruction → Recorded (List Answer × Calculator)
  | [] => return ([], calculator)
  | instruction :: rest => do
    let (answer, next) ← calculator.execute instruction
    let (answers, last) ← next.run rest
    return (answer :: answers, last)

/-! ## Texts -/

/-- Two calculators are interchangeable if their last results compare equal as numbers. -/
def sameResult (c d : Calculator) : Bool :=
  c.lastResult == d.lastResult

/-- A calculator shows its last result. -/
def display (calculator : Calculator) : String :=
  Decimal.Layout.plain.write calculator.lastResult

/-- The full description of a calculator. -/
def describe (calculator : Calculator) : String :=
  "Calculator \x7b last_result: " ++ Decimal.Layout.field.write calculator.lastResult ++ " \x7d"

end Calculator

/-- Whether a number is greater than zero. Neither zero is, nor is what is not a number. -/
def isPositive (x : Float) : Bool :=
  decide (0 < x)

end Reckoner
