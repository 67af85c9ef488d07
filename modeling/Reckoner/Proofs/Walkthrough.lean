import Reckoner.Proofs.Event.Report
import Reckoner.Walkthrough

/-!
# The walkthrough step by step

The walkthrough does some work, prints a line, and goes on to the next work. What it leaves
behind is therefore a sequence of steps, each with the reports of its own work before its line.
Neither of the two steps that could interrupt it does so.

* `Step` is a step with its line in some form, and `plan` the sequence of steps.
* `run_steps`: the walkthrough succeeds and leaves behind the entries of its plan.
* `diagnostics_plan`: the reports of the plan, step by step.
* `report_of_mem_reports`: they are reports of the arithmetic.
-/

namespace Reckoner

/-- What is reported while a step is done, and the line that is printed then, in some form. -/
structure Step (α : Type) where
  diagnostics : List Event
  line : α
deriving DecidableEq

namespace Calculator

theorem perform_of_ok {operator : Operator} {a b value : Float}
    (h : operator.apply a b = .ok value) (calculator : Calculator) :
    calculator.perform operator a b = ⟨(.ok value, ⟨value⟩), [performing operator a b]⟩ := by
  rw [perform, h]
  rfl

theorem perform_of_error {operator : Operator} {a b : Float} {cause : ArithmeticError}
    (h : operator.apply a b = .error cause) (calculator : Calculator) :
    calculator.perform operator a b = ⟨(.error cause, calculator), [rejected a]⟩ := by
  rw [perform, h]
  rfl

end Calculator

namespace Walkthrough

variable {α β : Type}

/-! ## Parts -/

theorem run_work_bind (w : Recorded α) (f : α → Part β) :
    (work w >>= f).run =
      ⟨(f w.result).run.result, w.entries.map .diagnostic ++ (f w.result).run.entries⟩ := by
  apply Trail.ext
  · rfl
  · exact congrArg (· ++ (f w.result).run.entries) (List.append_nil _)

theorem run_print_bind (line : Line) (f : Unit → Part β) :
    (print line >>= f).run = ⟨(f ()).run.result, .line line :: (f ()).run.entries⟩ := rfl

theorem run_print (line : Line) : (print line).run = ⟨.ok (), [.line line]⟩ := rfl

theorem require_ok_bind (doing : String) (value : α) (f : α → Part β) :
    require doing (.ok value) >>= f = f value := rfl

/-! ## Steps -/

/-- What a step leaves behind. -/
def entriesOf (step : Step Line) : List Entry :=
  step.diagnostics.map .diagnostic ++ [.line step.line]

/-- The steps of the walkthrough, with the reports of their own computations. -/
def plan (phrases : Phrases) : List (Step Line) :=
  let sum := Calculator.fresh.perform .add 5 3
  let difference := sum.result.2.perform .subtract 10 4
  let product := difference.result.2.perform .multiply 6 7
  let quotient := product.result.2.perform .divide 15 3
  let refused := quotient.result.2.perform .divide 10 0
  [⟨sum.entries, .result "5 + 3" "8"⟩,
    ⟨difference.entries, .result "10 - 4" "6"⟩,
    ⟨product.entries, .result "6 * 7" "42"⟩,
    ⟨quotient.entries, .result "15 / 3" "5"⟩,
    ⟨refused.entries, .failure "10 / 0" phrases.divisionByZero⟩,
    ⟨(Bank.empty.createMany 2).entries, .blank⟩,
    ⟨[], .labeled phrases.calculatorsCreated "2"⟩,
    ⟨(factorial 5).entries, .result (phrases.factorialOf ++ " 5") "120"⟩]

/-- The reports of the plan. Both new calculators are reported between the refused division and
the blank line. -/
def reports : List (List Event) :=
  [[Calculator.performing .add 5 3], [Calculator.performing .subtract 10 4],
    [Calculator.performing .multiply 6 7], [Calculator.performing .divide 15 3],
    [Calculator.rejected 10], [Bank.added 0, Bank.added 1], [], [computingFactorial 5]]

/-- The operations of the walkthrough. Only the last one is refused. -/
theorem apply_operations :
    Operator.add.apply 5 3 = .ok 8 ∧ Operator.subtract.apply 10 4 = .ok 6 ∧
      Operator.multiply.apply 6 7 = .ok 42 ∧ Operator.divide.apply 15 3 = .ok 5 ∧
      Operator.divide.apply 10 0 = .error .divisionByZero := by
  obtain ⟨hsum, hdifference, hproduct, hquotient⟩ : (5 : Float) + 3 = 8 ∧ (10 : Float) - 4 = 6 ∧
      (6 : Float) * 7 = 42 ∧ (15 : Float) / 3 = 5 := by
    decide +kernel
  obtain ⟨hdivisor, hzero⟩ : ¬ ((3 : Float) == 0) = true ∧ ((0 : Float) == 0) = true := by
    decide +kernel
  refine ⟨?_, ?_, ?_, ?_, ?_⟩
  · rw [Operator.apply, hsum]
  · rw [Operator.apply, hdifference]
  · rw [Operator.apply, hproduct]
  · rw [Operator.apply, if_neg hdivisor, hquotient]
  · rw [Operator.apply, if_pos hzero]

theorem createMany_bankSize :
    Bank.empty.createMany bankSize =
      ⟨([0, 1], ⟨#[.fresh, .fresh]⟩), [Bank.added 0, Bank.added 1]⟩ := rfl

theorem factorial_argument :
    factorial factorialArgument = ⟨.ok 120, [computingFactorial 5]⟩ := rfl

theorem diagnostics_plan (phrases : Phrases) :
    (plan phrases).map (·.diagnostics) = reports := by
  obtain ⟨hsum, hdifference, hproduct, hquotient, hrefused⟩ := apply_operations
  simp only [plan, Calculator.perform_of_ok hsum, Calculator.perform_of_ok hdifference,
    Calculator.perform_of_ok hproduct, Calculator.perform_of_ok hquotient,
    Calculator.perform_of_error hrefused, List.map_cons, List.map_nil]
  rfl

theorem report_of_mem_reports {event : Event} (h : event ∈ reports.flatten) : Report event := by
  simp only [reports, List.flatten_cons, List.flatten_nil, List.mem_append, List.mem_cons,
    List.not_mem_nil, or_false, false_or] at h
  rcases h with rfl | rfl | rfl | rfl | rfl | (rfl | rfl) | rfl
  · exact .performing _ _ _
  · exact .performing _ _ _
  · exact .performing _ _ _
  · exact .performing _ _ _
  · exact .rejected _
  · exact .added _
  · exact .added _
  · exact .computing _

/-- The walkthrough succeeds, and it leaves behind the entries of its plan. -/
theorem run_steps (language : Language) :
    (steps language).run =
      ⟨.ok (), (plan (Phrases.ofLanguage language)).flatMap entriesOf⟩ := by
  obtain ⟨h8, h6, h42, h5⟩ : Decimal.Layout.plain.write 8 = "8" ∧
      Decimal.Layout.plain.write 6 = "6" ∧ Decimal.Layout.plain.write 42 = "42" ∧
      Decimal.Layout.plain.write 5 = "5" := by
    decide +kernel
  obtain ⟨hcount, hargument, hfactorial⟩ : Decimal.writeInteger 2 = "2" ∧
      Decimal.writeInteger factorialArgument.toInt = "5" ∧
      Decimal.writeInteger (Int64.toInt 120) = "120" := by
    decide +kernel
  have hbank : ((Bank.mk #[.fresh, .fresh]).count : Int) = 2 := rfl
  obtain ⟨hsum, hdifference, hproduct, hquotient, hrefused⟩ := apply_operations
  -- Every result is known, so nothing is left to decide on the way through the steps.
  simp only [steps, plan, run_work_bind, run_print_bind, run_print, require_ok_bind,
    Calculator.perform_of_ok hsum, Calculator.perform_of_ok hdifference,
    Calculator.perform_of_ok hproduct, Calculator.perform_of_ok hquotient,
    Calculator.perform_of_error hrefused, createMany_bankSize, factorial_argument, Line.ofOutcome,
    h8, h6, h42, h5, hbank, hcount, hargument, hfactorial, String.append_assoc]
  rfl

end Walkthrough

end Reckoner
