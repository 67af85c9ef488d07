import Mathlib.Data.List.Basic
import Reckoner.Proofs.Bank.View
import Reckoner.Session

/-!
# Replay of a calculator

Requests to many calculators are served one after the other on one bank. To each calculator
it looks as if it were alone: the requests of an id, seen for themselves, are a run of a
machine whose state is what is found under that id (`soloStep`). A step lemma says what one
request does to an id that it is addressed to (`step_of_addressed`) and to any other
(`get?_step_of_not_addressed`); `exchanges_filter` carries both through a run.

* `createdIds_eq`: ids are given out in order.
* `calculators_after`: the calculator at place `k` is a fresh one that carried out the
  instructions addressed to it since it was added.
* `isolated_of_few`: all that can be seen of a session is seen in the replays.
-/

namespace Reckoner

/-! ## Requests -/

namespace Request

/-- The id that a request is addressed to. -/
def id? : Request → Option Int64
  | find id => some id
  | inspect id => some id
  | instruct id _ => some id
  | _ => none

/-- The place that a request is addressed to. -/
def place? (request : Request) : Option Nat :=
  request.id?.bind Bank.place?

/-- Whether a request adds a calculator. -/
def isCreate : Request → Bool
  | create => true
  | _ => false

/-- The instruction that a request carries. -/
def instruction? : Request → Option Calculator.Instruction
  | instruct _ instruction => some instruction
  | _ => none

theorem eq_create_of_isCreate {request : Request} (h : request.isCreate = true) :
    request = create := by
  cases request <;> simp_all [isCreate]

end Request

namespace Session

/-! ## Sessions as runs of a machine -/

/-- What a request replies and leaves behind. -/
def step (bank : Bank) (request : Request) : Reply × Bank :=
  (serve bank request).result

/-- The bank at the end of a session. -/
def after (bank : Bank) (requests : List Request) : Bank :=
  (run bank requests).result.2

/-- The requests of a session, each with its reply. -/
def exchanges (bank : Bank) (requests : List Request) : List (Request × Reply) :=
  requests.zip (run bank requests).result.1

theorem result_run (bank : Bank) (requests : List Request) :
    (run bank requests).result = Machine.run step bank requests := by
  induction requests generalizing bank with
  | nil => rfl
  | cons request rest ih =>
    simp only [run, Trail.result_bind, Trail.result_pure, Machine.run, ih, step]

theorem after_eq (bank : Bank) (requests : List Request) :
    after bank requests = Machine.after step bank requests := by
  rw [after, result_run, Machine.after]

theorem exchanges_eq (bank : Bank) (requests : List Request) :
    exchanges bank requests = Machine.exchanges step bank requests := by
  rw [exchanges, result_run, Machine.exchanges]

theorem after_append (bank : Bank) (xs ys : List Request) :
    after bank (xs ++ ys) = after (after bank xs) ys := by
  simp only [after_eq, Machine.after_append]

theorem exchanges_append (bank : Bank) (xs ys : List Request) :
    exchanges bank (xs ++ ys) = exchanges bank xs ++ exchanges (after bank xs) ys := by
  simp only [exchanges_eq, after_eq, Machine.exchanges_append]

theorem after_cons (bank : Bank) (request : Request) (rest : List Request) :
    after bank (request :: rest) = after (step bank request).2 rest := by
  simp only [after_eq, Machine.after_cons]

theorem exchanges_cons (bank : Bank) (request : Request) (rest : List Request) :
    exchanges bank (request :: rest) =
      (request, (step bank request).1) :: exchanges (step bank request).2 rest := by
  simp only [exchanges_eq, Machine.exchanges_cons]

/-! ## Adding calculators -/

/-- How many calculators are added. -/
def creations (requests : List Request) : Nat :=
  requests.countP Request.isCreate

theorem creations_cons (request : Request) (rest : List Request) :
    creations (request :: rest) = creations rest + (if request.isCreate then 1 else 0) :=
  List.countP_cons

theorem creations_append (xs ys : List Request) :
    creations (xs ++ ys) = creations xs + creations ys :=
  List.countP_append

theorem count_step (bank : Bank) (request : Request) :
    (step bank request).2.count = bank.count + (if request.isCreate then 1 else 0) := by
  cases request with
  | create => exact Bank.count_create bank
  | instruct id instruction => exact Bank.count_instruct bank id instruction
  | _ => rfl

theorem count_after (bank : Bank) (requests : List Request) :
    (after bank requests).count = bank.count + creations requests := by
  induction requests generalizing bank with
  | nil => rfl
  | cons request rest ih =>
    rw [after_cons, ih, count_step, creations_cons]
    omega

theorem count_after_empty (requests : List Request) :
    (after .empty requests).count = creations requests := by
  rw [count_after]
  exact Nat.zero_add _

/-- The id that a reply gives out. -/
def createdId? : Reply → Option Int64
  | .created id => some id
  | _ => none

/-- The ids that a session on a bank gives out, in the order in which it does. -/
def createdIds (bank : Bank) (requests : List Request) : List Int64 :=
  (exchanges bank requests).filterMap fun exchange => createdId? exchange.2

theorem createdId?_step (bank : Bank) (request : Request) :
    createdId? (step bank request).1 =
      if request.isCreate then some (Bank.idOf bank.count) else none := by
  cases request <;> rfl

theorem createdIds_cons (bank : Bank) (request : Request) (rest : List Request) :
    createdIds bank (request :: rest) =
      (if request.isCreate then [Bank.idOf bank.count] else []) ++
        createdIds (step bank request).2 rest := by
  have hid := createdId?_step bank request
  rw [createdIds, exchanges_cons, List.filterMap_cons]
  by_cases hcreate : request.isCreate = true
  · rw [if_pos hcreate] at hid ⊢
    simp only [hid]
    rfl
  · rw [if_neg hcreate] at hid ⊢
    simp only [hid]
    rfl

theorem createdIds_eq (bank : Bank) (requests : List Request) :
    createdIds bank requests =
      (List.range' bank.count (creations requests)).map Bank.idOf := by
  induction requests generalizing bank with
  | nil => rfl
  | cons request rest ih =>
    rw [createdIds_cons, ih, count_step, creations_cons]
    by_cases hcreate : request.isCreate = true
    · rw [if_pos hcreate, if_pos hcreate, List.range'_succ, List.map_cons]
      rfl
    · rw [if_neg hcreate, if_neg hcreate]
      rfl

/-! ## One calculator alone -/

/-- What a request does to the calculator it is addressed to, if that is found. -/
def soloStep (found : Option Calculator) (request : Request) : Reply × Option Calculator :=
  match request.instruction? with
  | some instruction =>
    (.answered (found.map fun calculator => (calculator.step instruction).1),
      found.map fun calculator => (calculator.step instruction).2)
  | none => (.found found, found)

/-- A request treats the calculator that it is addressed to as if it were alone. -/
theorem step_of_addressed {bank : Bank} {request : Request} {id : Int64}
    (h : request.id? = some id) :
    (step bank request).1 = (soloStep (bank.get? id) request).1 ∧
      (step bank request).2.get? id = (soloStep (bank.get? id) request).2 := by
  cases request with
  | find other =>
    obtain rfl : other = id := by simpa [Request.id?] using h
    refine ⟨?_, rfl⟩
    simp only [step, serve, Bank.find, soloStep, Request.instruction?]
    cases bank.get? other <;> rfl
  | inspect other =>
    obtain rfl : other = id := by simpa [Request.id?] using h
    exact ⟨rfl, rfl⟩
  | instruct other instruction =>
    obtain rfl : other = id := by simpa [Request.id?] using h
    refine ⟨?_, Bank.get?_instruct_self bank other instruction⟩
    simp only [step, serve, Trail.result_bind, Trail.result_pure, Bank.result_instruct, soloStep,
      Request.instruction?]
    cases bank.get? other <;> rfl
  | _ => simp [Request.id?] at h

/-- A request leaves what is found under other ids as it is, unless it adds a calculator. -/
theorem get?_step_of_not_addressed {bank : Bank} {request : Request} {id : Int64}
    (h : request.id? ≠ some id)
    (hnew : request.isCreate = true → Bank.place? id ≠ some bank.count) :
    (step bank request).2.get? id = bank.get? id := by
  cases request with
  | create =>
    have hplace := hnew rfl
    exact (Bank.get?_create bank id).trans (if_neg hplace)
  | instruct other instruction =>
    have hne : id ≠ other := by
      rintro rfl
      exact h rfl
    exact Bank.get?_instruct_of_ne hne instruction
  | _ => rfl

/-- The requests that are addressed to an id. -/
def addressedTo (id : Int64) (requests : List Request) : List Request :=
  requests.filter fun request => request.id? = some id

/-- The exchanges whose requests are addressed to an id. -/
def exchangesOf (id : Int64) (exchanges : List (Request × Reply)) : List (Request × Reply) :=
  exchanges.filter fun exchange => exchange.1.id? = some id

/-- An id that is in use stays in use, and one that is not comes into use only when its place is
reached. -/
def Settled (bank : Bank) (id : Int64) (requests : List Request) : Prop :=
  bank.get? id = none → ∀ place, Bank.place? id = some place →
    bank.count + creations requests ≤ place

theorem settled_empty {id : Int64} {requests : List Request}
    (h : ∀ place, Bank.place? id = some place → creations requests ≤ place) :
    Settled .empty id requests := by
  intro _ place hplace
  have hcount : Bank.empty.count = 0 := rfl
  have hle := h place hplace
  omega

theorem settled_step {bank : Bank} {id : Int64} {request : Request} {rest : List Request}
    (h : Settled bank id (request :: rest)) : Settled (step bank request).2 id rest := by
  intro hnone place hplace
  have hcount := count_step bank request
  have hbefore : bank.get? id = none := by
    rw [Bank.get?_eq_none_iff] at hnone ⊢
    omega
  have hroom := h hbefore place hplace
  rw [creations_cons] at hroom
  omega

theorem Settled.place?_ne {bank : Bank} {id : Int64} {request : Request} {rest : List Request}
    (h : Settled bank id (request :: rest)) (hcreate : request.isCreate = true) :
    Bank.place? id ≠ some bank.count := by
  intro hplace
  have hnone : bank.get? id = none := by
    have hid := Bank.place?_eq_some_iff.mp hplace
    rw [Bank.get?_eq_none_iff]
    omega
  have hroom := h hnone bank.count hplace
  rw [creations_cons, if_pos hcreate] at hroom
  omega

/-- **One calculator alone.** The exchanges of an id are those of a run in which only the
requests of this id are made, and such a run leads to what is found under the id. -/
theorem exchanges_filter {bank : Bank} {id : Int64} {requests : List Request}
    (h : Settled bank id requests) :
    exchangesOf id (exchanges bank requests) =
        Machine.exchanges soloStep (bank.get? id) (addressedTo id requests) ∧
      (after bank requests).get? id =
        Machine.after soloStep (bank.get? id) (addressedTo id requests) := by
  induction requests generalizing bank with
  | nil => exact ⟨rfl, rfl⟩
  | cons request rest ih =>
    obtain ⟨hexchanges, hafter⟩ := ih (settled_step h)
    rw [exchanges_cons, after_cons]
    -- A request of the id moves both runs, any other one moves the bank only.
    by_cases hid : request.id? = some id
    · obtain ⟨hreply, hnext⟩ := @step_of_addressed bank request id hid
      rw [hnext] at hexchanges hafter
      have hfilter : addressedTo id (request :: rest) = request :: addressedTo id rest :=
        List.filter_cons_of_pos (by simpa using hid)
      rw [hfilter, Machine.exchanges_cons, Machine.after_cons]
      refine ⟨?_, hafter⟩
      rw [← hexchanges, ← hreply]
      exact List.filter_cons_of_pos (by simpa using hid)
    · have hnext := get?_step_of_not_addressed hid (fun hcreate => h.place?_ne hcreate)
      rw [hnext] at hexchanges hafter
      have hfilter : addressedTo id (request :: rest) = addressedTo id rest :=
        List.filter_cons_of_neg (by simpa using hid)
      rw [hfilter]
      refine ⟨?_, hafter⟩
      rw [← hexchanges]
      exact List.filter_cons_of_neg (by simpa using hid)

/-! ## Replay -/

/-- The instructions that requests carry. -/
def instructions (requests : List Request) : List Calculator.Instruction :=
  requests.filterMap Request.instruction?

/-- The answer that a reply reports, if it is the reply to an instruction. -/
def answer? : Reply → Option (Option Calculator.Answer)
  | .answered answer => some answer
  | _ => none

theorem after_solo (calculator : Calculator) (requests : List Request) :
    Machine.after soloStep (some calculator) requests =
      some (calculator.after (instructions requests)) := by
  induction requests generalizing calculator with
  | nil => rfl
  | cons request rest ih =>
    cases h : request.instruction? with
    | none =>
      have hrest : instructions (request :: rest) = instructions rest :=
        List.filterMap_cons_none h
      rw [Machine.after_cons, hrest, ← ih]
      simp only [soloStep, h]
    | some instruction =>
      have hrest : instructions (request :: rest) = instruction :: instructions rest :=
        List.filterMap_cons_some h
      rw [Machine.after_cons, hrest, Calculator.after_eq, Machine.after_cons,
        ← Calculator.after_eq, ← ih]
      simp only [soloStep, h, Option.map_some]

theorem answers_solo (calculator : Calculator) (requests : List Request) :
    (Machine.exchanges soloStep (some calculator) requests).filterMap
        (fun exchange => answer? exchange.2) =
      (calculator.answers (instructions requests)).map some := by
  induction requests generalizing calculator with
  | nil => rfl
  | cons request rest ih =>
    rw [Machine.exchanges_cons]
    cases h : request.instruction? with
    | none =>
      have hrest : instructions (request :: rest) = instructions rest :=
        List.filterMap_cons_none h
      rw [hrest, ← ih]
      simp only [soloStep, h]
      exact List.filterMap_cons_none rfl
    | some instruction =>
      have hrest : instructions (request :: rest) = instruction :: instructions rest :=
        List.filterMap_cons_some h
      rw [hrest, Calculator.answers_eq, Machine.run, ← Calculator.answers_eq, List.map_cons, ← ih]
      simp only [soloStep, h, Option.map_some]
      exact List.filterMap_cons_some rfl

/-! ## Since a calculator was added -/

/-- What follows the element of a list with number `n` among those that satisfy `p`. -/
def afterNth {α : Type} (p : α → Bool) : Nat → List α → List α
  | _, [] => []
  | n, a :: rest =>
    if p a = false then afterNth p n rest
    else if n = 0 then rest
    else afterNth p (n - 1) rest

theorem afterNth_append_cons {α : Type} {p : α → Bool} {xs ys : List α} {a : α}
    (ha : p a = true) : afterNth p (xs.countP p) (xs ++ a :: ys) = ys := by
  induction xs with
  | nil => simp [afterNth, ha]
  | cons x xs ih =>
    by_cases hx : p x = true
    · rw [List.countP_cons_of_pos hx, List.cons_append, afterNth, if_neg (by simp [hx]),
        if_neg (Nat.succ_ne_zero _)]
      exact ih
    · rw [List.countP_cons_of_neg hx, List.cons_append, afterNth, if_pos (by simpa using hx)]
      exact ih

theorem exists_append_create {requests : List Request} {k : Nat} (hk : k < creations requests) :
    ∃ before rest, requests = before ++ .create :: rest ∧ creations before = k := by
  induction requests generalizing k with
  | nil => exact absurd hk (Nat.not_lt_zero k)
  | cons request rest ih =>
    rw [creations_cons] at hk
    by_cases hcreate : request.isCreate = true
    · cases k with
      | zero => exact ⟨[], rest, by rw [Request.eq_create_of_isCreate hcreate]; rfl, rfl⟩
      | succ k =>
        rw [if_pos hcreate] at hk
        obtain ⟨before, after, rfl, rfl⟩ := @ih k (by omega)
        exact ⟨request :: before, after, rfl, by rw [creations_cons, if_pos hcreate]⟩
    · rw [if_neg hcreate] at hk
      obtain ⟨before, after, rfl, rfl⟩ := ih hk
      exact ⟨request :: before, after, rfl, by rw [creations_cons, if_neg hcreate]; rfl⟩

/-- The instructions addressed to the calculator at place `k` since it was added. -/
def history (k : Nat) (requests : List Request) : List Calculator.Instruction :=
  instructions (addressedTo (Bank.idOf k) (afterNth Request.isCreate k requests))

/-- The answers that the calculator at place `k` gave to them. -/
def answersTo (k : Nat) (requests : List Request) : List (Option Calculator.Answer) :=
  (exchangesOf (Bank.idOf k)
    (afterNth (fun exchange => exchange.1.isCreate) k (exchanges .empty requests))).filterMap
      fun exchange => answer? exchange.2

/-- A fresh calculator that carried out the instructions addressed to place `k`. -/
def replay (k : Nat) (requests : List Request) : Calculator :=
  Calculator.fresh.after (history k requests)

theorem get?_step_create {bank : Bank} (hcount : bank.count < 2 ^ 63) :
    (step bank .create).2.get? (Bank.idOf bank.count) = some .fresh :=
  (Bank.get?_create bank _).trans (if_pos (Bank.place?_idOf hcount))

theorem settled_of_get? {bank : Bank} {id : Int64} {calculator : Calculator}
    (h : bank.get? id = some calculator) (requests : List Request) : Settled bank id requests := by
  intro hnone
  rw [h] at hnone
  cases hnone

/-- **Isolated replay.** The calculator at a place is a fresh one that carried out the
instructions addressed to it since it was added, and answered to each as it answered then. -/
theorem replay_spec {requests : List Request} {k : Nat} (hk : k < creations requests)
    (hlt : k < 2 ^ 63) :
    (after .empty requests).get? (Bank.idOf k) = some (replay k requests) ∧
      answersTo k requests = (Calculator.fresh.answers (history k requests)).map some := by
  -- Split the session where the calculator is added: from there on its id is settled.
  obtain ⟨before, rest, rfl, rfl⟩ := exists_append_create hk
  have hcount := count_after_empty before
  have hfresh : (step (after .empty before) .create).2.get? (Bank.idOf (creations before)) =
      some .fresh := by
    rw [← hcount] at hlt ⊢
    exact get?_step_create hlt
  obtain ⟨hexchanges, hafter⟩ := exchanges_filter (settled_of_get? hfresh rest)
  have hrequests : afterNth Request.isCreate (creations before) (before ++ .create :: rest) =
      rest := afterNth_append_cons rfl
  have hsince : afterNth (fun exchange : Request × Reply => exchange.1.isCreate)
      (creations before) (exchanges .empty (before ++ .create :: rest)) =
      exchanges (step (after .empty before) .create).2 rest := by
    have hbefore : creations before =
        (exchanges .empty before).countP (fun exchange => exchange.1.isCreate) := by
      rw [creations, exchanges_eq, ← Function.comp_def, ← List.countP_map,
        Machine.map_fst_exchanges]
    rw [exchanges_append, exchanges_cons, hbefore]
    exact afterNth_append_cons rfl
  constructor
  · rw [after_append, after_cons, hafter, hfresh, after_solo, replay, history, hrequests]
  · rw [answersTo, hsince, hexchanges, hfresh, answers_solo, history, hrequests]

theorem calculators_after {requests : List Request} (hfew : creations requests < 2 ^ 63) :
    (after .empty requests).calculators.toList =
      (List.range (creations requests)).map fun k => replay k requests := by
  have hcount : (after .empty requests).calculators.size = creations requests :=
    count_after_empty requests
  apply List.ext_getElem?
  intro k
  by_cases hk : k < creations requests
  · have hlt : k < 2 ^ 63 := by omega
    have hget := (replay_spec hk hlt).1
    rw [Bank.get?_of_place? (Bank.place?_idOf hlt)] at hget
    simp [hget, hk]
  · rw [List.getElem?_eq_none (by simpa [hcount] using hk),
      List.getElem?_eq_none (by simpa using hk)]

theorem entries_after {requests : List Request} (hfew : creations requests < 2 ^ 63) :
    (after .empty requests).entries =
      (List.range (creations requests)).map fun k => (Bank.idOf k, replay k requests) := by
  rw [Bank.entries, calculators_after hfew]
  apply List.ext_getElem?
  intro k
  by_cases hk : k < creations requests <;> simp [hk]

/-! ## What is seen of a session -/

theorem step_find (bank : Bank) (id : Int64) :
    step bank (.find id) = (.found (bank.get? id), bank) := by
  simp only [step, serve, Bank.find]
  cases bank.get? id <;> rfl

theorem step_inspect (bank : Bank) (id : Int64) :
    step bank (.inspect id) = (.found (bank.get? id), bank) := rfl

theorem step_instruct_of_none {bank : Bank} {id : Int64} (h : bank.get? id = none)
    (instruction : Calculator.Instruction) :
    step bank (.instruct id instruction) = (.answered none, bank) := by
  have hresult : (bank.instruct id instruction).result = (none, bank) := by
    rw [Bank.result_instruct, h]
  simp only [step, serve, Trail.result_bind, Trail.result_pure, hresult]

/-- Everything that can be seen after a session is what calculators of their own would show. -/
structure Isolated (requests : List Request) : Prop where
  /-- A calculator is the replay of the instructions addressed to it. -/
  replayed : ∀ k < creations requests,
    (after .empty requests).get? (Bank.idOf k) = some (replay k requests)
  /-- It gave the answers of its replay. -/
  answered : ∀ k < creations requests,
    answersTo k requests = (Calculator.fresh.answers (history k requests)).map some
  /-- Both ways of looking it up give this calculator and leave the bank as it is. -/
  found : ∀ k < creations requests,
    step (after .empty requests) (.find (Bank.idOf k)) =
        (.found (some (replay k requests)), after .empty requests) ∧
      step (after .empty requests) (.inspect (Bank.idOf k)) =
        (.found (some (replay k requests)), after .empty requests)
  /-- A request to an id that is not in use finds nothing and changes nothing. -/
  missing : ∀ id : Int64, ¬ (0 ≤ id.toInt ∧ id.toInt < creations requests) →
    step (after .empty requests) (.find id) = (.found none, after .empty requests) ∧
      step (after .empty requests) (.inspect id) = (.found none, after .empty requests) ∧
      ∀ instruction, step (after .empty requests) (.instruct id instruction) =
        (.answered none, after .empty requests)
  /-- The calculators are counted and listed in the order in which they were added. -/
  surveyed : step (after .empty requests) .count =
        (.counted (creations requests), after .empty requests) ∧
      step (after .empty requests) .entries =
        (.listed ((List.range (creations requests)).map fun k =>
          (Bank.idOf k, replay k requests)), after .empty requests)

theorem isolated_of_few {requests : List Request} (hfew : creations requests < 2 ^ 63) :
    Isolated requests := by
  have hcount := count_after_empty requests
  have hreplay (k : Nat) (hk : k < creations requests) := replay_spec hk (by omega)
  refine ⟨fun k hk => (hreplay k hk).1, fun k hk => (hreplay k hk).2, ?_, ?_, ?_, ?_⟩
  · intro k hk
    rw [step_find, step_inspect, (hreplay k hk).1]
    exact ⟨rfl, rfl⟩
  · intro id hid
    have hnone : (after .empty requests).get? id = none := by
      rw [Bank.get?_eq_none_iff, hcount]
      exact hid
    rw [step_find, step_inspect, hnone]
    exact ⟨rfl, rfl, step_instruct_of_none hnone⟩
  · rw [← hcount]
    rfl
  · rw [← entries_after hfew]
    rfl

end Session

end Reckoner
