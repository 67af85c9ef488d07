import Reckoner.Calculator

/-!
# Bank of calculators

A bank holds calculators in the order in which they were created. The place of a calculator is
its id; nothing is ever removed, so an id stays good for the life of the bank. Ids are signed
64-bit words: a negative id, or one past the end, names no calculator.

A look-up that only reads reports a miss. A look-up that goes on to change the calculator does
not.

* `Bank.create`, `Bank.find`, `Bank.update` are the operations.
* `Bank.get?` is the view that they are described by.
-/

namespace Reckoner

/-- Calculators in the order of their creation. -/
structure Bank where
  calculators : Array Calculator

namespace Bank

/-- The bank without calculators. -/
def empty : Bank where
  calculators := #[]

/-- How many calculators there are. -/
def count (bank : Bank) : Nat :=
  bank.calculators.size

/-- The place named by an id. -/
def place? (id : Int64) : Option Nat :=
  id.toInt.toNat?

/-- The id of a place. -/
def idOf (place : Nat) : Int64 :=
  Int64.ofNat place

/-- The calculator with an id. -/
def get? (bank : Bank) (id : Int64) : Option Calculator :=
  (place? id).bind (bank.calculators[·]?)

/-- All calculators with their ids, in the order of the ids. -/
def entries (bank : Bank) : List (Int64 × Calculator) :=
  bank.calculators.toList.zipIdx.map fun (calculator, place) => (idOf place, calculator)

/-! ## Operations -/

/-- The target of a bank's diagnostics. -/
def target : String := "abacus_core::manager"

/-- Reports a new calculator. -/
def added (id : Int64) : Event :=
  .diagnostic .debug target "calculator added" [⟨"id", .ofInt id.toInt⟩]

/-- Reports a look-up that found nothing. -/
def missed (id : Int64) : Event :=
  .diagnostic .trace target "no calculator with this id" [⟨"id", .ofInt id.toInt⟩]

/-- Adds a fresh calculator and returns its id. -/
def create (bank : Bank) : Recorded (Int64 × Bank) := do
  let id := idOf bank.count
  .report (added id)
  return (id, ⟨bank.calculators.push .fresh⟩)

/-- Adds `n` fresh calculators and returns their ids. -/
def createMany (bank : Bank) : Nat → Recorded (List Int64 × Bank)
  | 0 => return ([], bank)
  | n + 1 => do
    let (id, next) ← bank.create
    let (ids, last) ← next.createMany n
    return (id :: ids, last)

/-- Looks up a calculator in order to read it. -/
def find (bank : Bank) (id : Int64) : Recorded (Option Calculator) :=
  match bank.get? id with
  | some calculator => return some calculator
  | none => do
    .report (missed id)
    return none

/-- Puts a calculator in place of the one with the given id, if there is one. -/
def replace (bank : Bank) (id : Int64) (calculator : Calculator) : Bank :=
  match place? id with
  | some place => ⟨bank.calculators.setIfInBounds place calculator⟩
  | none => bank

/-- Looks up a calculator and has it carry out an instruction. -/
def instruct (bank : Bank) (id : Int64) (instruction : Calculator.Instruction) :
    Recorded (Option Calculator.Answer × Bank) :=
  match bank.get? id with
  | some calculator => do
    let (answer, next) ← calculator.execute instruction
    return (some answer, bank.replace id next)
  | none => return (none, bank)

/-! ## Sizes -/

@[simp] theorem count_create (bank : Bank) : bank.create.result.2.count = bank.count + 1 := by
  simp [create, count]

theorem count_replace (bank : Bank) (id : Int64) (calculator : Calculator) :
    (bank.replace id calculator).count = bank.count := by
  unfold replace
  split <;> simp [count]

theorem length_entries (bank : Bank) : bank.entries.length = bank.count := by
  simp [entries, count]

/-! ## Texts -/

/-- The full description of a bank. -/
def describe (bank : Bank) : String :=
  "CalculatorManager \x7b calculators: [" ++
    ", ".intercalate (bank.calculators.toList.map Calculator.describe) ++ "] \x7d"

end Bank

end Reckoner
