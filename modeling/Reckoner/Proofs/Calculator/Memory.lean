import Mathlib.Data.List.Induction
import Reckoner.Calculator
import Reckoner.Proofs.Decimal.Comparison
import Reckoner.Proofs.Machine

/-!
# Memory of a calculator

A calculator is a machine whose state is one number. Every instruction does one of three
things (`step_cases`): clearing forgets the number, an accepted operation replaces it by its
result, a rejected division leaves it. Three facts about all runs follow.

* `lastResult_after`: the last result is the value of the latest accepted operation since the
  latest clearing, or the positive zero if there is none. Numbers are compared word by word,
  so that this holds of both zeros and of what is not a number.
* `getElem?_answers_compute`: the answer to an operation is a function of its two operands;
  nothing that happened before matters.
* `run_fresh_memory` adds that rejected divisions are invisible: leaving out any of them
  changes no other answer and no state.
-/

namespace Reckoner.Calculator

/-! ## Runs as runs of a machine -/

/-- What an instruction answers and leaves behind. -/
def step (calculator : Calculator) (instruction : Instruction) : Answer × Calculator :=
  (calculator.execute instruction).result

/-- The answers of a run. -/
def answers (calculator : Calculator) (instructions : List Instruction) : List Answer :=
  (calculator.run instructions).result.1

/-- The calculator at the end of a run. -/
def after (calculator : Calculator) (instructions : List Instruction) : Calculator :=
  (calculator.run instructions).result.2

/-- The instructions of a run, each with its answer. -/
def exchanges (calculator : Calculator) (instructions : List Instruction) :
    List (Instruction × Answer) :=
  instructions.zip (calculator.answers instructions)

theorem result_run (calculator : Calculator) (instructions : List Instruction) :
    (calculator.run instructions).result = Machine.run step calculator instructions := by
  induction instructions generalizing calculator with
  | nil => rfl
  | cons instruction rest ih =>
    simp only [run, Trail.result_bind, Trail.result_pure, Machine.run, ih, step]

theorem answers_eq (calculator : Calculator) (instructions : List Instruction) :
    calculator.answers instructions = (Machine.run step calculator instructions).1 := by
  rw [answers, result_run]

theorem after_eq (calculator : Calculator) (instructions : List Instruction) :
    calculator.after instructions = Machine.after step calculator instructions := by
  rw [after, result_run, Machine.after]

theorem exchanges_eq (calculator : Calculator) (instructions : List Instruction) :
    calculator.exchanges instructions = Machine.exchanges step calculator instructions := by
  rw [exchanges, answers_eq, Machine.exchanges]

theorem exchanges_concat (calculator : Calculator) (instructions : List Instruction)
    (instruction : Instruction) :
    calculator.exchanges (instructions ++ [instruction]) =
      calculator.exchanges instructions ++
        [(instruction, ((calculator.after instructions).step instruction).1)] := by
  simp only [exchanges_eq, after_eq, Machine.exchanges_append, Machine.exchanges_cons,
    Machine.exchanges_nil]

theorem after_concat (calculator : Calculator) (instructions : List Instruction)
    (instruction : Instruction) :
    calculator.after (instructions ++ [instruction]) =
      ((calculator.after instructions).step instruction).2 := by
  simp only [after_eq, Machine.after_append, Machine.after_cons, Machine.after_nil]

/-! ## One instruction -/

theorem step_clear (calculator : Calculator) : calculator.step .clear = (none, fresh) := rfl

theorem step_compute (calculator : Calculator) (operator : Operator) (a b : Operand) :
    calculator.step (.compute operator a b) =
      (some (operator.apply (a.value calculator) (b.value calculator)),
        match operator.apply (a.value calculator) (b.value calculator) with
        | .ok value => ⟨value⟩
        | .error _ => calculator) := by
  simp only [step, execute, perform]
  cases operator.apply (a.value calculator) (b.value calculator) <;> rfl

/-- What an instruction can do: forget, keep its result, or be refused without effect. -/
theorem step_cases (calculator : Calculator) (instruction : Instruction) :
    (instruction = .clear ∧ calculator.step instruction = (none, fresh)) ∨
    (instruction ≠ .clear ∧ ∃ value, calculator.step instruction = (some (.ok value), ⟨value⟩)) ∨
    (instruction ≠ .clear ∧ ∃ cause, calculator.step instruction =
      (some (.error cause), calculator)) := by
  cases instruction with
  | clear => exact .inl ⟨rfl, step_clear calculator⟩
  | compute operator a b =>
    rw [step_compute]
    cases operator.apply (a.value calculator) (b.value calculator) with
    | ok value => exact .inr (.inl ⟨by simp, value, rfl⟩)
    | error cause => exact .inr (.inr ⟨by simp, cause, rfl⟩)

/-- Only a division is ever refused, and only for a divisor that compares equal to zero. -/
theorem apply_eq_error_iff (operator : Operator) (x y : Float) (cause : ArithmeticError) :
    operator.apply x y = .error cause ↔
      operator = .divide ∧ (y == 0) = true ∧ cause = .divisionByZero := by
  cases operator with
  | add => simp [Operator.apply]
  | subtract => simp [Operator.apply]
  | multiply => simp [Operator.apply]
  | divide =>
    rw [Operator.apply]
    split
    · rename_i hzero
      simp [hzero, eq_comm]
    · rename_i hzero
      simp [hzero]

/-! ## The latest result -/

/-- The value that an accepted operation answers with. -/
def value? : Answer → Option Float
  | some (.ok value) => some value
  | _ => none

/-- The value of the latest accepted operation since the latest clearing. -/
def latestValue? (exchanges : List (Instruction × Answer)) : Option Float :=
  (exchanges.reverse.takeWhile (fun exchange => exchange.1 ≠ .clear)).findSome?
    (fun exchange => value? exchange.2)

theorem latestValue?_concat_clear (exchanges : List (Instruction × Answer)) (answer : Answer) :
    latestValue? (exchanges ++ [(.clear, answer)]) = none := by
  simp [latestValue?]

theorem latestValue?_concat {exchanges : List (Instruction × Answer)} {instruction : Instruction}
    (hclear : instruction ≠ .clear) (answer : Answer) :
    latestValue? (exchanges ++ [(instruction, answer)]) =
      (value? answer).or (latestValue? exchanges) := by
  cases hvalue : value? answer <;> simp [latestValue?, hclear, hvalue]

/-- The last result of a run is the latest value of its exchanges, or the positive zero. -/
theorem lastResult_after (instructions : List Instruction) :
    (fresh.after instructions).lastResult =
      (latestValue? (fresh.exchanges instructions)).getD (Float.ofBits 0) := by
  -- the invariant is about the end of the run, so the induction adds instructions there
  induction instructions using List.reverseRecOn with
  | nil => rfl
  | append_singleton instructions instruction ih =>
    rw [after_concat, exchanges_concat]
    rcases step_cases (fresh.after instructions) instruction with
      ⟨rfl, hstep⟩ | ⟨hclear, value, hstep⟩ | ⟨hclear, cause, hstep⟩
    · rw [hstep, latestValue?_concat_clear]
      rfl
    · rw [hstep, latestValue?_concat hclear]
      rfl
    · rw [hstep, latestValue?_concat hclear]
      exact ih

/-! ## Answers -/

theorem getElem?_answers_compute {calculator : Calculator} {instructions : List Instruction}
    {n : Nat} {operator : Operator} {a b : Operand}
    (hn : instructions[n]? = some (.compute operator a b)) :
    (calculator.answers instructions)[n]? =
      some (some (operator.apply (a.value (calculator.after (instructions.take n)))
        (b.value (calculator.after (instructions.take n))))) := by
  rw [answers_eq, ← Machine.map_snd_exchanges, List.getElem?_map,
    Machine.getElem?_exchanges step hn, ← after_eq, step_compute]
  rfl

/-! ## Rejected divisions -/

/-- An exchange whose instruction was refused as a division by zero. -/
def Rejected (exchange : Instruction × Answer) : Prop :=
  exchange.2 = some (.error .divisionByZero)

theorem step_of_rejected {calculator : Calculator} {instruction : Instruction}
    (h : Rejected (instruction, (calculator.step instruction).1)) :
    (calculator.step instruction).2 = calculator := by
  rw [Rejected] at h
  rcases step_cases calculator instruction with
    ⟨_, hstep⟩ | ⟨_, value, hstep⟩ | ⟨_, cause, hstep⟩
  · rw [hstep] at h
    cases h
  · rw [hstep] at h
    cases h
  · rw [hstep]

/-! ## The memory of a run -/

/-- **Memory of a run.** At every point the last result is the latest value since the latest
clearing; every operation answers by its operands alone; a division is refused iff its divisor
is one of the two zeros; and leaving out any rejected divisions leaves every other answer and
the calculator at the end as they are. -/
theorem run_fresh_memory (instructions : List Instruction) :
    (∀ n : Nat, (fresh.after (instructions.take n)).lastResult =
      (latestValue? ((fresh.exchanges instructions).take n)).getD (Float.ofBits 0)) ∧
    (∀ (n : Nat) (operator : Operator) (a b : Operand) (x y : Float),
      instructions[n]? = some (.compute operator a b) →
      a.value (fresh.after (instructions.take n)) = x →
      b.value (fresh.after (instructions.take n)) = y →
      (fresh.answers instructions)[n]? = some (some (operator.apply x y)) ∧
      ((fresh.answers instructions)[n]? = some (some (.error .divisionByZero)) ↔
        operator = .divide ∧ (y == 0) = true) ∧
      ((y == 0) = true ↔ y.toBits = 0 ∨ y.toBits = 0x8000000000000000)) ∧
    (∀ kept, Without Rejected (fresh.exchanges instructions) kept →
      fresh.exchanges (kept.map Prod.fst) = kept ∧
      fresh.after (kept.map Prod.fst) = fresh.after instructions) := by
  refine ⟨?_, ?_, ?_⟩
  · intro n
    rw [lastResult_after, exchanges_eq, exchanges_eq, Machine.take_exchanges]
  · rintro n operator a b x y hn rfl rfl
    have hanswer := @getElem?_answers_compute fresh _ _ _ _ _ hn
    refine ⟨hanswer, ?_, Decimal.beq_zero_iff _⟩
    rw [hanswer, Option.some.injEq, Option.some.injEq, apply_eq_error_iff]
    simp
  · intro kept hkept
    rw [exchanges_eq] at hkept
    rw [exchanges_eq, after_eq, after_eq]
    exact Machine.exchanges_of_invisible step (fun _ _ => step_of_rejected) hkept

/-- A division by the negative zero between two operations, of which the second takes the last
result as an operand. -/
def interrupted : List Instruction :=
  [.compute .add (.number 1) (.number 2), .compute .divide .lastResult (.number (-0)),
    .compute .multiply .lastResult (.number 2)]

/-- The division of `interrupted` is rejected, and the run without it has the same results. -/
theorem interrupted_without_rejection :
    (fresh.answers interrupted)[1]? = some (some (.error .divisionByZero)) ∧
    fresh.exchanges [.compute .add (.number 1) (.number 2),
        .compute .multiply .lastResult (.number 2)] =
      [(.compute .add (.number 1) (.number 2), some (.ok 3)),
        (.compute .multiply .lastResult (.number 2), some (.ok 6))] ∧
    (fresh.after interrupted).lastResult = 6 := by
  obtain ⟨hlast, hanswers, hwithout⟩ := run_fresh_memory interrupted
  have hrejected := ((hanswers 1 .divide .lastResult (.number (-0)) 3 (-0) rfl
    (by decide +kernel) rfl).2.1).mpr ⟨rfl, by decide +kernel⟩
  have hrun : fresh.exchanges interrupted =
      [(.compute .add (.number 1) (.number 2), some (.ok 3)),
        (.compute .divide .lastResult (.number (-0)), some (.error .divisionByZero)),
        (.compute .multiply .lastResult (.number 2), some (.ok 6))] := by
    decide +kernel
  have hkept := Without.keep (.compute .add (.number 1) (.number 2), some (.ok 3))
    (.drop (show Rejected (.compute .divide .lastResult (.number (-0)),
      some (.error .divisionByZero)) from rfl)
      (.keep (.compute .multiply .lastResult (.number 2), some (.ok 6)) .nil))
  rw [← hrun] at hkept
  refine ⟨hrejected, (hwithout _ hkept).1, ?_⟩
  exact (hlast 3).trans (by decide +kernel)

end Reckoner.Calculator
