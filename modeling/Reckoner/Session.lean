import Reckoner.Bank
import Reckoner.Factorial

/-!
# Sessions

A session is a list of requests served one after the other on one bank of calculators. Every
request has a reply, may change the bank and may leave events.

* `Session.serve` serves one request.
* `Session.run` serves a list of requests.
-/

namespace Reckoner

/-- What can be asked of the arithmetic. -/
inductive Request where
  /-- Adds a calculator. -/
  | create
  /-- Looks up a calculator in order to read it. -/
  | find (id : Int64)
  /-- Looks up a calculator as for a change, and leaves it as it is. -/
  | inspect (id : Int64)
  /-- Looks up a calculator and has it carry out an instruction. -/
  | instruct (id : Int64) (instruction : Calculator.Instruction)
  /-- Counts the calculators. -/
  | count
  /-- Lists the calculators. -/
  | entries
  /-- Computes a factorial. -/
  | factorial (n : Int64)
  /-- Tests a number. -/
  | isPositive (x : Float)

/-- What is replied to a request. -/
inductive Reply where
  | created (id : Int64)
  | found (calculator : Option Calculator)
  | answered (answer : Option Calculator.Answer)
  | counted (n : Nat)
  | listed (entries : List (Int64 × Calculator))
  | computed (value : Except ArithmeticError Int64)
  | tested (positive : Bool)

namespace Session

/-- Serves one request. -/
def serve (bank : Bank) : Request → Recorded (Reply × Bank)
  | .create => do
    let (id, next) ← bank.create
    return (.created id, next)
  | .find id => do
    let calculator ← bank.find id
    return (.found calculator, bank)
  | .inspect id => return (.found (bank.get? id), bank)
  | .instruct id instruction => do
    let (answer, next) ← bank.instruct id instruction
    return (.answered answer, next)
  | .count => return (.counted bank.count, bank)
  | .entries => return (.listed bank.entries, bank)
  | .factorial n => do
    let value ← factorial n
    return (.computed value, bank)
  | .isPositive x => return (.tested (isPositive x), bank)

/-- Serves requests one after the other. -/
def run (bank : Bank) : List Request → Recorded (List Reply × Bank)
  | [] => return ([], bank)
  | request :: rest => do
    let (reply, next) ← serve bank request
    let (replies, last) ← run next rest
    return (reply :: replies, last)

end Session

end Reckoner
