import Mathlib.Data.Int.ModEq
import Mathlib.Data.Nat.Factorial.Basic
import Reckoner.Factorial

/-!
# Factorial modulo the word

The product is computed with the multiplication of 64-bit words, and no step of it is checked.
What comes out is the word of the true factorial: dropping what does not fit after each factor
and dropping it once at the end are the same. The word is the factorial itself as long as that
stays below `2 ^ 63`, which is up to `20!`, and it is zero as soon as `2 ^ 64` divides the
factorial, which is from `66!` on.

* `wrappedProduct_eq`: the loop computes the word of the factorial.
* `factorial_of_nonneg`, `factorial_of_neg`: the two ways in which a factorial ends.
* `factorial_modulo_word`: the result as a number modulo `2 ^ 64`.
* `factorial_exact_iff`: for which arguments the result is the factorial, and for which it is zero.
-/

namespace Reckoner

open scoped Nat

/-! ## Words of natural numbers -/

/-- The word of a number is the only one that is congruent to it. -/
theorem modEq_iff_eq_ofNat (word : Int64) (k : Nat) :
    word.toInt ≡ k [ZMOD 2 ^ 64] ↔ word = Int64.ofNat k := by
  have hlow := word.le_toInt
  have hhigh := word.toInt_lt
  rw [← Int64.toInt_inj, Int64.toInt_ofNat', eq_comm (a := word.toInt),
    Int.bmod_eq_iff (by decide), Int.modEq_comm, Int.modEq_iff_dvd]
  constructor
  · intro hdvd
    exact ⟨by simp; omega, by simp; omega, hdvd⟩
  · exact fun h => h.2.2

theorem toInt_ofNat_eq_iff (k : Nat) : (Int64.ofNat k).toInt = k ↔ k < 2 ^ 63 := by
  constructor
  · intro h
    have hhigh := (Int64.ofNat k).toInt_lt
    omega
  · intro h
    rw [Int64.toInt_ofNat']
    exact Int.bmod_eq_of_le (by simp) (by simp; omega)

theorem ofNat_eq_zero_iff (k : Nat) : Int64.ofNat k = 0 ↔ 2 ^ 64 ∣ k := by
  rw [← Int64.toInt_inj, Int64.toInt_ofNat', Int64.toInt_zero, ← Int.dvd_iff_bmod_eq_zero,
    Int.natCast_dvd_natCast]
  rfl

/-! ## The loop -/

theorem wrappedProduct_succ (n : Nat) :
    wrappedProduct (n + 1) = wrappedProduct n * Int64.ofNat (n + 1) :=
  Nat.fold_succ n _ 1

/-- After each factor the product is the word of the factorial so far. -/
theorem wrappedProduct_eq (n : Nat) : wrappedProduct n = Int64.ofNat n ! := by
  induction n with
  | zero => rfl
  | succ n ih => rw [wrappedProduct_succ, ih, ← Int64.ofNat_mul, Nat.factorial_succ, Nat.mul_comm]

theorem factorial_of_neg {n : Int64} (h : n.toInt < 0) :
    factorial n = ⟨.error (.negativeFactorial n), []⟩ := by
  have hneg : n < 0 := by
    rwa [Int64.lt_iff_toInt_lt, Int64.toInt_zero]
  rw [factorial, if_pos hneg]
  rfl

theorem factorial_of_nonneg {n : Int64} (h : 0 ≤ n.toInt) :
    factorial n = ⟨.ok (Int64.ofNat (n.toInt.toNat)!), [computingFactorial n]⟩ := by
  have hneg : ¬ n < 0 := by
    rw [Int64.lt_iff_toInt_lt, Int64.toInt_zero]
    omega
  rw [factorial, if_neg hneg, ← wrappedProduct_eq, Int64.toNat_toInt]
  rfl

/-- A negative argument is refused by name. Any other one gives the word that is congruent to its
factorial, and there is one such word only. -/
theorem factorial_modulo_word (n : Int64) :
    (n.toInt < 0 → (factorial n).result = .error (.negativeFactorial n)) ∧
    (0 ≤ n.toInt → ∃ word : Int64, (factorial n).result = .ok word ∧
      ∀ other : Int64, other.toInt ≡ (n.toInt.toNat)! [ZMOD 2 ^ 64] ↔ other = word) := by
  constructor
  · intro h
    rw [factorial_of_neg h]
  · intro h
    rw [factorial_of_nonneg h]
    exact ⟨_, rfl, fun other => modEq_iff_eq_ofNat other _⟩

-- The least argument, and the first one whose factorial does not fit.
theorem factorial_modulo_word_extremes :
    (factorial Int64.minValue).result = .error (.negativeFactorial Int64.minValue) ∧
    ∃ word : Int64, (factorial 21).result = .ok word ∧ word = -4249290049419214848 ∧
      word.toInt ≡ 21 ! [ZMOD 2 ^ 64] := by
  refine ⟨(factorial_modulo_word Int64.minValue).1 (by decide), ?_⟩
  obtain ⟨word, hresult, hword⟩ := (factorial_modulo_word 21).2 (by decide)
  have hvalue : (-4249290049419214848 : Int64) = word := (hword _).mp (by decide)
  exact ⟨word, hresult, hvalue.symm, (hword word).mpr rfl⟩

/-! ## Exact results and zero -/

theorem factorial_lt_iff (n : Nat) : n ! < 2 ^ 63 ↔ n ≤ 20 := by
  constructor
  · intro h
    by_contra hn
    have hmono : 21 ! ≤ n ! := Nat.factorial_le (by omega)
    have hlarge : 2 ^ 63 ≤ 21 ! := by decide
    omega
  · intro hn
    have hmono : n ! ≤ 20 ! := Nat.factorial_le hn
    have hsmall : 20 ! < 2 ^ 63 := by decide
    omega

/-- The even factors up to 66 have 64 twos between them, and those up to 65 have 63. -/
theorem dvd_factorial_iff (n : Nat) : 2 ^ 64 ∣ n ! ↔ 66 ≤ n := by
  constructor
  · intro h
    by_contra hn
    have hmono : n ! ∣ 65 ! := Nat.factorial_dvd_factorial (by omega)
    exact absurd (h.trans hmono) (by decide +kernel)
  · intro hn
    have hsixtySix : 2 ^ 64 ∣ 66 ! := by decide +kernel
    exact hsixtySix.trans (Nat.factorial_dvd_factorial hn)

/-- The result is the factorial up to `20!` and zero from `66!` on. In between it is neither, and
nothing but the usual report is said about it. -/
theorem factorial_exact_iff (n : Int64) (h : 0 ≤ n.toInt) :
    ∃ word : Int64, factorial n = ⟨.ok word, [computingFactorial n]⟩ ∧
      (word.toInt = (n.toInt.toNat)! ↔ n.toInt ≤ 20) ∧
      (word = 0 ↔ 66 ≤ n.toInt) ∧
      (21 ≤ n.toInt → word.toInt ≠ (n.toInt.toNat)!) ∧
      (word ≠ 0 ∧ word.toInt ≠ (n.toInt.toNat)! ↔ 21 ≤ n.toInt ∧ n.toInt ≤ 65) := by
  have hexact : (Int64.ofNat (n.toInt.toNat)!).toInt = (n.toInt.toNat)! ↔ n.toInt ≤ 20 := by
    rw [toInt_ofNat_eq_iff, factorial_lt_iff]
    omega
  have hzero : Int64.ofNat (n.toInt.toNat)! = 0 ↔ 66 ≤ n.toInt := by
    rw [ofNat_eq_zero_iff, dvd_factorial_iff]
    omega
  refine ⟨_, factorial_of_nonneg h, hexact, hzero, ?_, ?_⟩
  · intro hlarge
    rw [Ne, hexact]
    omega
  · rw [Ne, Ne, hzero, hexact]
    omega

-- The last exact result, the last one that is not zero, and the greatest argument.
theorem factorial_exact_iff_bounds :
    (∃ word : Int64, (factorial 20).result = .ok word ∧ word.toInt = 20 !) ∧
    (∃ word : Int64, (factorial 65).result = .ok word ∧ word ≠ 0 ∧ word.toInt ≠ 65 !) ∧
    (factorial Int64.maxValue).result = .ok 0 := by
  obtain ⟨twenty, htwenty, hexact, _⟩ := factorial_exact_iff 20 (by decide)
  obtain ⟨last, hlast, _, _, _, hwrong⟩ := factorial_exact_iff 65 (by decide)
  obtain ⟨greatest, hgreatest, _, hzero, _⟩ := factorial_exact_iff Int64.maxValue (by decide)
  refine ⟨⟨twenty, by rw [htwenty], hexact.mpr (by decide)⟩,
    ⟨last, by rw [hlast], hwrong.mpr (by decide)⟩, ?_⟩
  rw [hgreatest, hzero.mpr (by decide)]

end Reckoner
