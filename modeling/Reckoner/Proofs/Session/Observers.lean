import Mathlib.Data.List.Basic
import Reckoner.Proofs.Session.Replay

/-!
# Observers of a bank

A bank is seen in four ways: calculators are looked up to be read, looked up to be changed,
counted and listed. Each way has its own passage between signed ids and places in the array. This
file shows that all of them see the same calculators under the same ids.

* `Bank.isSome_find_iff`: the ids that are found are those from zero up to the count.
* `Bank.getElem?_entries`: the list has at each place the calculator that is found there.
* `Bank.entries_eq`, `Bank.pairwise_entries`, `Bank.mem_entries_iff`: the list is the look-ups
  of all ids in use, in increasing order and each once.
* `Session.observers_agree`: all of this after every session.

A place from `2 ^ 63` on has no id of its own, so three of them ask for a bank with at most as many
calculators as there are ids. No bank has more: its calculators would not fit into memory.
-/

namespace Reckoner

namespace Bank

/-! ## Look-ups -/

theorem result_find (bank : Bank) (id : Int64) : (bank.find id).result = bank.get? id := by
  rw [find]
  cases bank.get? id <;> rfl

theorem isSome_find_iff (bank : Bank) (id : Int64) :
    (bank.find id).result.isSome = true ↔ 0 ≤ id.toInt ∧ id.toInt < bank.count := by
  rw [result_find, Option.isSome_iff_ne_none, ne_eq, get?_eq_none_iff, not_not]

theorem answer_instruct (bank : Bank) (id : Int64) (instruction : Calculator.Instruction) :
    (bank.instruct id instruction).result.1 =
      (bank.find id).result.map fun calculator => (calculator.step instruction).1 := by
  rw [result_find, result_instruct]
  cases bank.get? id <;> rfl

theorem find_instruct (bank : Bank) (id : Int64) (instruction : Calculator.Instruction) :
    ((bank.instruct id instruction).result.2.find id).result =
      (bank.find id).result.map fun calculator => (calculator.step instruction).2 := by
  rw [result_find, result_find, get?_instruct_self]

/-! ## The list -/

theorem getElem?_entries_place (bank : Bank) (place : Nat) :
    bank.entries[place]? = bank.calculators[place]?.map (idOf place, ·) := by
  simp only [entries, List.getElem?_map, List.getElem?_zipIdx, Array.getElem?_toList,
    Option.map_map, Nat.zero_add]
  rfl

/-- The entry at the place of an id is the id with the calculator that is found under it. -/
theorem getElem?_entries (bank : Bank) {id : Int64} (h : 0 ≤ id.toInt) :
    bank.entries[id.toInt.toNat]? = (bank.find id).result.map (id, ·) := by
  have hlt : id.toInt.toNat < 2 ^ 63 := by
    have := id.toInt_lt
    omega
  have hplace : place? id = some id.toInt.toNat := place?_eq_some_iff.mpr (by omega)
  have hid : idOf id.toInt.toNat = id := eq_of_place?_eq (place?_idOf hlt) hplace
  rw [getElem?_entries_place, result_find, get?_of_place? hplace, hid]

section

variable {bank : Bank} (hfew : bank.count ≤ 2 ^ 63)
include hfew

/-- The list is the look-ups of the ids `0`, `1`, `2` and so on, up to the count. -/
theorem entries_eq :
    bank.entries.map (fun entry => (entry.1.toInt, some entry.2)) =
      (List.range bank.count).map fun k : Nat => ((k : Int), (bank.find (idOf k)).result) := by
  apply List.ext_getElem?
  intro k
  by_cases hk : k < bank.count
  · have hlt : k < 2 ^ 63 := by omega
    have hget : bank.calculators[k]? = some bank.calculators[k] := Array.getElem?_eq_getElem hk
    simp only [List.getElem?_map, getElem?_entries_place, List.getElem?_range hk, result_find,
      get?_of_place? (place?_idOf hlt), hget, Option.map_some, toInt_idOf hlt]
  · have hlength := length_entries bank
    rw [List.getElem?_eq_none (by simp; omega), List.getElem?_eq_none (by simp; omega)]

theorem pairwise_entries : (bank.entries.map fun entry => entry.1).Pairwise (· < ·) := by
  have hids : (bank.entries.map fun entry => entry.1.toInt) =
      (List.range bank.count).map fun k : Nat => (k : Int) := by
    have hentries := congrArg (List.map Prod.fst) (entries_eq hfew)
    simpa only [List.map_map, Function.comp_def] using hentries
  have hsorted : ((List.range bank.count).map fun k : Nat => (k : Int)).Pairwise (· < ·) := by
    rw [List.pairwise_map]
    exact List.pairwise_lt_range.imp fun hlt => by omega
  rw [← hids, List.pairwise_map] at hsorted
  rw [List.pairwise_map]
  exact hsorted.imp fun hlt => Int64.lt_iff_toInt_lt.mpr hlt

theorem mem_entries_iff (id : Int64) (calculator : Calculator) :
    (id, calculator) ∈ bank.entries ↔ (bank.find id).result = some calculator := by
  constructor
  · intro hmem
    obtain ⟨k, hk⟩ := List.mem_iff_getElem?.mp hmem
    have hcount : k < bank.count := by
      have hlength := length_entries bank
      have := (List.getElem?_eq_some_iff.mp hk).1
      omega
    rw [getElem?_entries_place, Option.map_eq_some_iff] at hk
    obtain ⟨found, hfound, hentry⟩ := hk
    obtain ⟨rfl, rfl⟩ := Prod.mk.inj hentry
    rw [result_find, get?_of_place? (place?_idOf (by omega)), hfound]
  · intro hfind
    have huse := (isSome_find_iff bank id).mp (by rw [hfind]; rfl)
    have hentry := getElem?_entries bank huse.1
    rw [hfind] at hentry
    exact List.mem_of_getElem? hentry

end

end Bank

namespace Session

/-- **Agreement.** After every session, the ids that are found are those from zero up to the
count, both look-ups find the same calculator, what an instruction answers and changes is that
calculator, and the list has it at its place. The list is therefore all look-ups that succeed, in
the order of the ids and each once. -/
theorem observers_agree (requests : List Request) :
    let bank := after .empty requests
    (∀ id : Int64,
      ((bank.find id).result.isSome = true ↔ 0 ≤ id.toInt ∧ id.toInt < bank.count) ∧
      step bank (.inspect id) = step bank (.find id) ∧
      (∀ instruction,
        (bank.instruct id instruction).result.1 =
          (bank.find id).result.map (fun calculator => (calculator.step instruction).1) ∧
        ((bank.instruct id instruction).result.2.find id).result =
          (bank.find id).result.map fun calculator => (calculator.step instruction).2) ∧
      (0 ≤ id.toInt → bank.entries[id.toInt.toNat]? = (bank.find id).result.map (id, ·))) ∧
    bank.entries.length = bank.count ∧
    (bank.count ≤ 2 ^ 63 →
      bank.entries.map (fun entry => (entry.1.toInt, some entry.2)) =
        (List.range bank.count).map (fun k : Nat => ((k : Int), (bank.find (Bank.idOf k)).result)) ∧
      (bank.entries.map fun entry => entry.1).Pairwise (· < ·) ∧
      ∀ id calculator, (id, calculator) ∈ bank.entries ↔
        (bank.find id).result = some calculator) := by
  intro bank
  refine ⟨fun id => ⟨bank.isSome_find_iff id, ?_, ?_, bank.getElem?_entries⟩,
    bank.length_entries, ?_⟩
  · rw [step_inspect, step_find]
  · intro instruction
    exact ⟨bank.answer_instruct id instruction, bank.find_instruct id instruction⟩
  · exact fun hfew => ⟨Bank.entries_eq hfew, Bank.pairwise_entries hfew, Bank.mem_entries_iff hfew⟩

/-- Two calculators, one of them used before the other is added. -/
def usedBetween : List Request :=
  [.create, .instruct 0 (.compute .add (.number 1) (.number 2)), .find 1, .create,
    .instruct 1 (.compute .multiply (.number 4) (.number 5))]

theorem observers_agree_usedBetween :
    let bank := after .empty usedBetween
    bank.count ≤ 2 ^ 63 ∧
    (bank.find 1).result.isSome = true ∧ ¬ (bank.find 2).result.isSome = true ∧
    ¬ (bank.find (-1)).result.isSome = true ∧
    ¬ (bank.find Int64.minValue).result.isSome = true ∧
    ¬ (bank.find Int64.maxValue).result.isSome = true ∧
    bank.entries.map (fun entry => (entry.1.toInt, some entry.2)) =
      [(0, some ⟨3⟩), (1, some ⟨20⟩)] := by
  intro bank
  have hfew : bank.count ≤ 2 ^ 63 := by decide
  obtain ⟨hids, _, hentries⟩ := observers_agree usedBetween
  refine ⟨hfew, ?_, ?_, ?_, ?_, ?_, ?_⟩
  · exact (hids 1).1.mpr (by decide)
  · exact (hids 2).1.not.mpr (by decide)
  · exact (hids (-1)).1.not.mpr (by decide)
  · exact (hids Int64.minValue).1.not.mpr (by decide)
  · exact (hids Int64.maxValue).1.not.mpr (by decide)
  · exact (hentries hfew).1.trans (by decide +kernel)

end Session

end Reckoner
