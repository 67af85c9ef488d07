import Mathlib.Data.Rat.Floor
import Mathlib.Order.Bounds.Basic
import Reckoner.Proofs.Decimal.Order

/-!
# Integer parts

The integer part of a number is the last integer on the way from zero to its exact value that a
signed 64-bit word can hold. This says at once that a fraction is dropped toward zero, that numbers
beyond the range become its ends, and that the infinities do so too. What is not a number has the
integer part zero.

* `Binary.IsTruncation`: which integer is the integer part of a value.
* `Binary.isTruncation_truncate`: `Binary.truncate` computes it.
* `Binary.IsTruncation.neg_iff`: it is negative for values up to minus one, and not above.
-/

namespace Reckoner.Decimal.Binary

/-- The number is the last integer of a signed 64-bit word between zero and a value. -/
def IsTruncation (n : Int) : Option Extended → Prop
  | none => n = 0
  | some a =>
    (((0 : ℚ) : Extended) ≤ a → IsGreatest {z : Int | z < 2 ^ 63 ∧ ((z : ℚ) : Extended) ≤ a} n) ∧
    (a ≤ ((0 : ℚ) : Extended) → IsLeast {z : Int | -2 ^ 63 ≤ z ∧ a ≤ ((z : ℚ) : Extended)} n)

/-! ## Signs of integer parts -/

namespace IsTruncation

variable {n : Int}

theorem neg_iff {value : Option Extended} (h : IsTruncation n value) :
    n < 0 ↔ ∃ a ∈ value, a ≤ ((-1 : ℚ) : Extended) := by
  cases value with
  | none =>
    have hzero : n = 0 := h
    simp [hzero]
  | some a =>
    obtain ⟨hgreatest, hleast⟩ := h
    simp only [Option.mem_def, Option.some.injEq, exists_eq_left']
    constructor
    · intro hneg
      have hbelow : ¬ ((0 : ℚ) : Extended) ≤ a := by
        intro hnonneg
        have hn : 0 ≤ n := (hgreatest hnonneg).2 ⟨by decide, by simpa using hnonneg⟩
        omega
      have hvalue := (hleast (le_of_not_ge hbelow)).1.2
      have hn : n ≤ -1 := by omega
      exact hvalue.trans (WithBotTop.coe_le_coe.mpr (by exact_mod_cast hn))
    · intro hvalue
      have hnonpos : a ≤ ((0 : ℚ) : Extended) :=
        hvalue.trans (WithBotTop.coe_le_coe.mpr (by norm_num))
      have hn : n ≤ -1 := (hleast hnonpos).2 ⟨by decide, by simpa using hvalue⟩
      omega

theorem eq_zero {value : Option Extended} (h : IsTruncation n value)
    (hsmall : ∀ a ∈ value, ((-1 : ℚ) : Extended) < a ∧ a ≤ ((0 : ℚ) : Extended)) : n = 0 := by
  have hnonneg : ¬ n < 0 := by
    rw [h.neg_iff]
    rintro ⟨a, ha, hvalue⟩
    exact absurd hvalue (not_le_of_gt (hsmall a ha).1)
  cases value with
  | none => exact h
  | some a =>
    obtain ⟨_, hnonpos⟩ := hsmall a rfl
    have hn : n ≤ 0 := (h.2 hnonpos).2 ⟨by decide, by simpa using hnonpos⟩
    omega

end IsTruncation

/-! ## Whole parts -/

/-- The integer arithmetic of the whole part is a floor. -/
theorem floor_magnitude (m : Nat) (e : Int) : ⌊(m : ℚ) * 2 ^ e⌋ = (wholePart m e : Int) := by
  unfold wholePart
  split
  · rename_i hexponent
    obtain ⟨k, rfl⟩ := Int.eq_ofNat_of_zero_le hexponent
    have hwhole : (m : ℚ) * 2 ^ (k : Int) = ((m * 2 ^ k : Nat) : Int) := by
      push_cast
      rw [zpow_natCast]
    rw [hwhole, Int.floor_intCast]
    simp
  · rename_i hexponent
    obtain ⟨k, rfl⟩ : ∃ k : Nat, e = -(k : Int) := ⟨(-e).toNat, by omega⟩
    have hpower : (2 : ℚ) ^ k = ((2 ^ k : Nat) : ℚ) := by
      push_cast
      rfl
    rw [zpow_neg, zpow_natCast, ← div_eq_mul_inv, hpower, Rat.floor_natCast_div_natCast]
    simp

/-- A word that is too small for an integer holds the nearest end of its range. -/
theorem toInt_ofIntClamp (z : Int) :
    (Int64.ofIntClamp z).toInt = max (min z (2 ^ 63 - 1)) (-2 ^ 63) := by
  have hmin : Int64.minValue.toInt = -2 ^ 63 := rfl
  have hmax : Int64.maxValue.toInt = 2 ^ 63 - 1 := rfl
  by_cases hlow : Int64.minValue.toInt ≤ z
  · by_cases hhigh : z ≤ Int64.maxValue.toInt
    · rw [Int64.toInt_ofIntClamp hlow hhigh]
      omega
    · rw [Int64.ofIntClamp, dif_pos hlow, dif_neg hhigh]
      omega
  · rw [Int64.ofIntClamp, dif_neg hlow]
    omega

theorem isGreatest_floor (q : ℚ) :
    IsGreatest {z : Int | z < 2 ^ 63 ∧ ((z : ℚ) : Extended) ≤ (q : Extended)}
      (min ⌊q⌋ (2 ^ 63 - 1)) := by
  have hle : ∀ z : Int, ((z : ℚ) : Extended) ≤ (q : Extended) ↔ z ≤ ⌊q⌋ := by
    intro z
    rw [WithBotTop.coe_le_coe, Int.le_floor]
  refine ⟨⟨by omega, (hle _).mpr (by omega)⟩, ?_⟩
  rintro z ⟨hrange, hz⟩
  have hfloor := (hle z).mp hz
  omega

theorem isLeast_ceil (q : ℚ) :
    IsLeast {z : Int | -2 ^ 63 ≤ z ∧ (q : Extended) ≤ ((z : ℚ) : Extended)}
      (max ⌈q⌉ (-2 ^ 63)) := by
  have hle : ∀ z : Int, (q : Extended) ≤ ((z : ℚ) : Extended) ↔ ⌈q⌉ ≤ z := by
    intro z
    rw [WithBotTop.coe_le_coe, Int.ceil_le]
  refine ⟨⟨by omega, (hle _).mpr (by omega)⟩, ?_⟩
  rintro z ⟨hrange, hz⟩
  have hceil := (hle z).mp hz
  omega

theorem toInt_truncate_false (m : Nat) (e : Int) :
    (truncate (finite false m e)).toInt = min ⌊rational false m e⌋ (2 ^ 63 - 1) := by
  have hfloor : ⌊rational false m e⌋ = (wholePart m e : Int) := floor_magnitude m e
  rw [truncate, toInt_ofIntClamp, hfloor]
  omega

theorem toInt_truncate_true (m : Nat) (e : Int) :
    (truncate (finite true m e)).toInt = max ⌈rational true m e⌉ (-2 ^ 63) := by
  have hceil : ⌈rational true m e⌉ = -(wholePart m e : Int) := by
    rw [rational_true, Int.ceil_neg, ← floor_magnitude]
    rfl
  rw [truncate, toInt_ofIntClamp, hceil]
  omega

theorem rational_false_nonneg (m : Nat) (e : Int) : 0 ≤ rational false m e := by
  simp only [rational, Bool.false_eq_true, if_false]
  positivity

/-- The two descriptions of an integer part have to agree at zero only. -/
theorem isTruncation_of_rational {n : Int} {q : ℚ}
    (hfloor : 0 ≤ q → n = min ⌊q⌋ (2 ^ 63 - 1)) (hceil : q ≤ 0 → n = max ⌈q⌉ (-2 ^ 63)) :
    IsTruncation n (some (q : Extended)) := by
  constructor
  · intro hnonneg
    rw [hfloor (WithBotTop.coe_le_coe.mp hnonneg)]
    exact isGreatest_floor q
  · intro hnonpos
    rw [hceil (WithBotTop.coe_le_coe.mp hnonpos)]
    exact isLeast_ceil q

theorem isTruncation_truncate (b : Binary) : IsTruncation b.truncate.toInt b.value? := by
  cases b with
  | notANumber => rfl
  | infinite negative =>
    cases negative with
    | false =>
      refine ⟨fun _ => ⟨⟨by decide, le_top⟩, ?_⟩, fun h => absurd h (by decide)⟩
      rintro z ⟨hz, _⟩
      exact Int.le_sub_one_of_lt hz
    | true =>
      refine ⟨fun h => absurd h (by decide), fun _ => ⟨⟨by decide, bot_le⟩, ?_⟩⟩
      rintro z ⟨hz, _⟩
      exact hz
  | finite negative m e =>
    have hnonneg := rational_false_nonneg m e
    cases negative with
    | false =>
      rw [toInt_truncate_false]
      refine isTruncation_of_rational (fun _ => rfl) fun hnonpos => ?_
      rw [le_antisymm hnonpos hnonneg]
      simp
    | true =>
      rw [toInt_truncate_true]
      refine isTruncation_of_rational (fun hnonneg' => ?_) fun _ => rfl
      have hzero : rational true m e = 0 := by
        rw [rational_true] at *
        linarith
      rw [hzero]
      simp

end Reckoner.Decimal.Binary
