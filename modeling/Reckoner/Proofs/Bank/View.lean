import Mathlib.Algebra.Group.Nat.Defs
import Reckoner.Bank
import Reckoner.Proofs.Calculator.Memory

/-!
# The view of a bank

A bank is known by what `Bank.get?` finds under each id. An id names a place iff it is not
negative, and below `2 ^ 63` places and ids correspond to each other, so that every operation
of a bank can be described by what it does to this view.

* `get?_eq_none_iff`: the ids in use are those from zero up to the number of calculators.
* `get?_create`: a new calculator is found under the next id, and nothing else changes.
* `get?_instruct_self`, `get?_instruct_of_ne`: an instruction changes the calculator it is
  addressed to as the calculator alone would change, and no other one.
-/

namespace Reckoner.Bank

/-! ## Ids and places -/

theorem place?_eq_some_iff {id : Int64} {place : Nat} :
    place? id = some place ↔ id.toInt = place :=
  Int.mem_toNat?

theorem toInt_idOf {place : Nat} (h : place < 2 ^ 63) : (idOf place).toInt = place :=
  Int64.toInt_ofNat_of_lt h

/-- A place is found again from its id, as long as ids are not negative. -/
theorem place?_idOf {place : Nat} (h : place < 2 ^ 63) : place? (idOf place) = some place :=
  place?_eq_some_iff.mpr (toInt_idOf h)

theorem eq_of_place?_eq {id other : Int64} {place : Nat} (h : place? id = some place)
    (hother : place? other = some place) : id = other := by
  rw [place?_eq_some_iff] at h hother
  exact Int64.toInt_inj.mp (h.trans hother.symm)

theorem get?_of_place? {bank : Bank} {id : Int64} {place : Nat} (h : place? id = some place) :
    bank.get? id = bank.calculators[place]? := by
  rw [get?, h, Option.bind_some]

/-- The ids in use are those from zero up to the number of calculators. -/
theorem get?_eq_none_iff (bank : Bank) (id : Int64) :
    bank.get? id = none ↔ ¬ (0 ≤ id.toInt ∧ id.toInt < bank.count) := by
  cases h : place? id with
  | none =>
    have hneg : ¬ 0 ≤ id.toInt := by
      intro hpos
      have hplace : place? id = some id.toInt.toNat := place?_eq_some_iff.mpr (by omega)
      rw [h] at hplace
      cases hplace
    simp [get?, h, hneg]
  | some place =>
    have hplace := place?_eq_some_iff.mp h
    rw [get?_of_place? h, Array.getElem?_eq_none_iff, hplace, count]
    omega

/-! ## Adding a calculator -/

theorem result_create (bank : Bank) :
    bank.create.result = (idOf bank.count, ⟨bank.calculators.push .fresh⟩) := rfl

/-- A new calculator takes the next place and leaves all others as they were. -/
theorem get?_create (bank : Bank) (id : Int64) :
    bank.create.result.2.get? id =
      if place? id = some bank.count then some .fresh else bank.get? id := by
  rw [result_create]
  cases h : place? id with
  | none => simp [get?, h]
  | some place =>
    rw [get?_of_place? h, get?_of_place? h, Array.getElem?_push]
    simp [count]

/-! ## Instructions -/

theorem result_instruct (bank : Bank) (id : Int64) (instruction : Calculator.Instruction) :
    (bank.instruct id instruction).result =
      match bank.get? id with
      | some calculator =>
        (some (calculator.step instruction).1, bank.replace id (calculator.step instruction).2)
      | none => (none, bank) := by
  rw [instruct]
  cases bank.get? id <;> rfl

theorem get?_replace_self {bank : Bank} {id : Int64} {old : Calculator}
    (h : bank.get? id = some old) (new : Calculator) :
    (bank.replace id new).get? id = some new := by
  obtain ⟨place, hplace, hold⟩ := Option.bind_eq_some_iff.mp h
  obtain ⟨hlt, _⟩ := Array.getElem?_eq_some_iff.mp hold
  rw [get?_of_place? hplace, replace, hplace]
  simp [hlt]

theorem get?_replace_of_ne {bank : Bank} {id other : Int64} (hne : other ≠ id)
    (calculator : Calculator) : (bank.replace id calculator).get? other = bank.get? other := by
  cases hplace : place? id with
  | none => simp [replace, hplace]
  | some place =>
    cases hother : place? other with
    | none => simp [get?, hother]
    | some there =>
      have hthere : place ≠ there := by
        rintro rfl
        exact hne (eq_of_place?_eq hother hplace)
      rw [get?_of_place? hother, get?_of_place? hother, replace, hplace]
      simp [hthere]

/-- The calculator that an instruction is addressed to does what it would do alone. -/
theorem get?_instruct_self (bank : Bank) (id : Int64) (instruction : Calculator.Instruction) :
    (bank.instruct id instruction).result.2.get? id =
      (bank.get? id).map fun calculator => (calculator.step instruction).2 := by
  rw [result_instruct]
  cases h : bank.get? id with
  | none => exact h
  | some calculator => exact get?_replace_self h _

theorem get?_instruct_of_ne {bank : Bank} {id other : Int64} (hne : other ≠ id)
    (instruction : Calculator.Instruction) :
    (bank.instruct id instruction).result.2.get? other = bank.get? other := by
  rw [result_instruct]
  cases bank.get? id with
  | none => rfl
  | some calculator => exact get?_replace_of_ne hne _

theorem count_instruct (bank : Bank) (id : Int64) (instruction : Calculator.Instruction) :
    (bank.instruct id instruction).result.2.count = bank.count := by
  rw [result_instruct]
  cases bank.get? id with
  | none => rfl
  | some calculator => exact count_replace bank id _

end Reckoner.Bank
