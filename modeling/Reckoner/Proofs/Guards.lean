import Reckoner.Calculator
import Reckoner.Proofs.Decimal.Packing
import Reckoner.Proofs.Decimal.Truncation
import Reckoner.Proofs.Factorial

/-!
# Factorials of integer parts

Two guards stand before the factorial of a number that is not an integer: the number may be asked
to be positive, and the factorial refuses a negative argument. They look at different things, the
one at the number and the other at its integer part, and they do not agree: between minus one and
zero, and where there is no number at all, the integer part is zero. What matters is that the
first guard is the stricter one, so that the factorial of a positive number is never refused.

* `Binary.ofBits_cases`: what a word can be, by its bits.
* `Binary.isNaN_ofBits`, `isPositive_ofBits`: two tests by the bits of the word.
* `factorial_truncate_refused_iff`: the two guards side by side, for every word.
-/

namespace Reckoner.Decimal.Binary

open Float.Model

/-! ## Kinds of words -/

/-- The test for what is not a number looks at the fields that the exact value is read from. -/
theorem isNaN_iff (x : Float) : x.isNaN = true ↔ ofFloat x = .notANumber := by
  rw [ofFloat, ← ofUnpacked_unpack]
  change x.toModel.unpack.isNaN = true ↔ ofUnpacked x.toModel.unpack = _
  cases x.toModel.unpack with
  | notANumber => exact iff_of_true rfl rfl
  | infinity sign => exact iff_of_false Bool.false_ne_true Binary.noConfusion
  | zero sign => exact iff_of_false Bool.false_ne_true Binary.noConfusion
  | finite sign m e h => exact iff_of_false Bool.false_ne_true Binary.noConfusion

/-- The kind of a word goes by its bits below the sign, and its sign is the highest bit. -/
theorem ofBits_cases (bits : UInt64) :
    (0x7ff0000000000000 < bits.toNat % 2 ^ 63 ∧ ofBits bits = .notANumber) ∨
    (bits.toNat % 2 ^ 63 = 0x7ff0000000000000 ∧
      ofBits bits = .infinite (decide (2 ^ 63 ≤ bits.toNat))) ∨
    ∃ m e, bits.toNat % 2 ^ 63 < 0x7ff0000000000000 ∧ (m = 0 ↔ bits.toNat % 2 ^ 63 = 0) ∧
      ofBits bits = .finite (decide (2 ^ 63 ≤ bits.toNat)) m e := by
  have hlt := bits.toNat_lt
  unfold ofBits hiddenBit
  dsimp only
  split
  · split
    · exact .inr (.inl ⟨by omega, rfl⟩)
    · exact .inl ⟨by omega, rfl⟩
  · split
    · exact .inr (.inr ⟨_, _, by omega, by omega, rfl⟩)
    · exact .inr (.inr ⟨_, _, by omega, by omega, rfl⟩)

theorem ofBits_eq_notANumber_iff (bits : UInt64) :
    ofBits bits = .notANumber ↔ 0x7ff0000000000000 < bits.toNat % 2 ^ 63 := by
  obtain ⟨hbits, hread⟩ | ⟨hbits, hread⟩ | ⟨m, e, hbits, _, hread⟩ := ofBits_cases bits
  · exact iff_of_true hread hbits
  · exact iff_of_false (by simp [hread]) hbits.le.not_gt
  · exact iff_of_false (by simp [hread]) hbits.le.not_gt

theorem isNaN_ofBits (bits : UInt64) :
    (Float.ofBits bits).isNaN = true ↔ 0x7ff0000000000000 < bits.toNat % 2 ^ 63 := by
  rw [isNaN_iff, ofFloat_ofBits, ofBits_eq_notANumber_iff]

/-! ## Signs of values -/

theorem value?_eq_none_iff (b : Binary) : b.value? = none ↔ b = .notANumber := by
  cases b with
  | notANumber => simp [value?]
  | infinite negative => cases negative <;> simp [value?]
  | finite negative m e => simp [value?]

theorem value?_zero : (ofFloat 0).value? = some ((0 : ℚ) : Extended) := by
  have hread : ofFloat 0 = finite false 0 leastExponent := rfl
  rw [hread, value?, rational_zero]

theorem value?_negOne : (ofFloat (-1)).value? = some ((-1 : ℚ) : Extended) := by
  have hread : ofFloat (-1) = finite true hiddenBit (-52) := rfl
  have hvalue : rational true hiddenBit (-52) = -1 := by
    norm_num [rational, hiddenBit]
  rw [hread, value?, hvalue]

theorem infinite_pos_iff (negative : Bool) :
    (∃ a ∈ (infinite negative).value?, ((0 : ℚ) : Extended) < a) ↔ negative = false := by
  cases negative with
  | false =>
    have htop : ((0 : ℚ) : Extended) < ⊤ := lt_top_iff_ne_top.mpr (WithBotTop.coe_ne_top 0)
    exact ⟨fun _ => rfl, fun _ => ⟨⊤, rfl, htop⟩⟩
  | true => simp [value?]

theorem finite_pos_iff (negative : Bool) (m : Nat) (e : Int) :
    (∃ a ∈ (finite negative m e).value?, ((0 : ℚ) : Extended) < a) ↔
      negative = false ∧ m ≠ 0 := by
  simp only [value?, Option.mem_def, Option.some.injEq, exists_eq_left', WithBotTop.coe_lt_coe]
  constructor
  · intro hpos
    have hm : m ≠ 0 := by
      rintro rfl
      rw [rational_zero] at hpos
      exact lt_irrefl 0 hpos
    cases negative with
    | false => exact ⟨rfl, hm⟩
    | true => exact absurd (rational_neg (Nat.pos_of_ne_zero hm) e) (not_lt_of_gt hpos)
  · rintro ⟨rfl, hm⟩
    exact rational_pos (Nat.pos_of_ne_zero hm) e

/-- A word is positive if it has no sign, is not zero and has a value. -/
theorem ofBits_pos_iff (bits : UInt64) :
    (∃ a ∈ (ofBits bits).value?, ((0 : ℚ) : Extended) < a) ↔
      bits.toNat < 2 ^ 63 ∧ bits.toNat ≠ 0 ∧ ofBits bits ≠ .notANumber := by
  obtain ⟨_, hread⟩ | ⟨hbits, hread⟩ | ⟨m, e, _, hzero, hread⟩ := ofBits_cases bits
  · simp [hread, value?]
  · rw [hread, infinite_pos_iff, decide_eq_false_iff_not]
    simp only [ne_eq, reduceCtorEq, not_false_eq_true, and_true]
    omega
  · rw [hread, finite_pos_iff, decide_eq_false_iff_not]
    simp only [ne_eq, reduceCtorEq, not_false_eq_true, and_true, hzero]
    omega

theorem infinite_ne_zero (negative : Bool) :
    (infinite negative).value? ≠ some ((0 : ℚ) : Extended) := by
  intro hzero
  cases negative with
  | false => exact WithBotTop.coe_ne_top 0 (Option.some.inj hzero).symm
  | true => exact WithBotTop.coe_ne_bot 0 (Option.some.inj hzero).symm

theorem finite_eq_zero_iff (negative : Bool) (m : Nat) (e : Int) :
    (finite negative m e).value? = some ((0 : ℚ) : Extended) ↔ m = 0 := by
  rw [value?, Option.some.injEq, WithBotTop.coe_injective.eq_iff]
  constructor
  · intro hzero
    by_contra hm
    have hpos := Nat.pos_of_ne_zero hm
    cases negative with
    | false => exact absurd hzero (rational_pos hpos e).ne'
    | true => exact absurd hzero (rational_neg hpos e).ne
  · rintro rfl
    exact rational_zero negative e

/-- Both zeros have the value zero, and no other word has. -/
theorem ofBits_eq_zero_iff (bits : UInt64) :
    (ofBits bits).value? = some ((0 : ℚ) : Extended) ↔ bits.toNat = 0 ∨ bits.toNat = 2 ^ 63 := by
  have hlt := bits.toNat_lt
  obtain ⟨hbits, hread⟩ | ⟨hbits, hread⟩ | ⟨m, e, _, hzero, hread⟩ := ofBits_cases bits
  · rw [hread]
    simp only [value?, reduceCtorEq, false_iff]
    omega
  · rw [hread, iff_false_left (infinite_ne_zero _)]
    omega
  · rw [hread, finite_eq_zero_iff, hzero]
    omega

end Reckoner.Decimal.Binary

namespace Reckoner

open Decimal

/-! ## The two guards -/

theorem isPositive_iff (x : Float) :
    isPositive x = true ↔ ∃ a ∈ (Binary.ofFloat x).value?, ((0 : ℚ) : Binary.Extended) < a := by
  rw [isPositive, decide_eq_true_iff, Binary.lt_iff, Binary.value?_zero]
  simp

theorem isPositive_ofBits (bits : UInt64) :
    isPositive (Float.ofBits bits) = true ↔
      bits.toNat < 2 ^ 63 ∧ bits ≠ 0 ∧ (Float.ofBits bits).isNaN = false := by
  have hzero : bits ≠ 0 ↔ bits.toNat ≠ 0 := UInt64.toNat_inj.symm.not
  have hnumber : (Float.ofBits bits).isNaN = false ↔ Binary.ofBits bits ≠ .notANumber := by
    rw [← Bool.not_eq_true, Binary.isNaN_iff, Binary.ofFloat_ofBits]
  rw [isPositive_iff, Binary.ofFloat_ofBits, Binary.ofBits_pos_iff, hzero, hnumber]

/-- The integer part is negative from minus one downwards. -/
theorem truncate_neg_iff (x : Float) : (Binary.ofFloat x).truncate.toInt < 0 ↔ x ≤ -1 := by
  rw [(Binary.isTruncation_truncate _).neg_iff, Binary.le_iff, Binary.value?_negOne]
  simp

/-- Between the two guards the integer part is zero. -/
theorem truncate_eq_zero {x : Float} (hlow : ¬ x ≤ -1) (hhigh : isPositive x = false) :
    (Binary.ofFloat x).truncate = 0 := by
  have hn : (Binary.ofFloat x).truncate.toInt = 0 := by
    refine (Binary.isTruncation_truncate _).eq_zero fun a ha => ⟨?_, ?_⟩
    · by_contra hle
      exact hlow ((Binary.le_iff x (-1)).mpr ⟨a, ha, _, Binary.value?_negOne, le_of_not_gt hle⟩)
    · by_contra hpos
      rw [← Bool.not_eq_true, isPositive_iff] at hhigh
      exact hhigh ⟨a, ha, lt_of_not_ge hpos⟩
  rwa [← Int64.toInt_zero, Int64.toInt_inj] at hn

theorem not_le_of_isPositive {x : Float} (h : isPositive x = true) : ¬ x ≤ -1 := by
  intro hle
  obtain ⟨a, ha, hpos⟩ := (isPositive_iff x).mp h
  rw [← truncate_neg_iff, (Binary.isTruncation_truncate _).neg_iff] at hle
  obtain ⟨b, hb, hneg⟩ := hle
  obtain rfl := Option.mem_unique ha hb
  have hcontra := WithBotTop.coe_lt_coe.mp (hpos.trans_le hneg)
  norm_num at hcontra

theorem factorial_truncate_of_le {x : Float} (h : x ≤ -1) :
    (factorial (Binary.ofFloat x).truncate).result =
      .error (.negativeFactorial (Binary.ofFloat x).truncate) := by
  rw [factorial_of_neg ((truncate_neg_iff x).mpr h)]

theorem factorial_truncate_of_not_le {x : Float} (h : ¬ x ≤ -1) :
    ∃ word, (factorial (Binary.ofFloat x).truncate).result = .ok word := by
  have hn : 0 ≤ (Binary.ofFloat x).truncate.toInt :=
    Int.not_lt.mp (mt (truncate_neg_iff x).mp h)
  rw [factorial_of_nonneg hn]
  exact ⟨_, rfl⟩

/-- What is neither positive nor at most minus one has no value, is a zero or lies between. -/
theorem between_iff (bits : UInt64) :
    ¬ Float.ofBits bits ≤ -1 ∧ isPositive (Float.ofBits bits) = false ↔
      (Float.ofBits bits).isNaN = true ∨ bits = 0 ∨ bits = 0x8000000000000000 ∨
        -1 < Float.ofBits bits ∧ Float.ofBits bits < 0 := by
  have hzero : bits = 0 ∨ bits = 0x8000000000000000 ↔
      (Binary.ofBits bits).value? = some ((0 : ℚ) : Binary.Extended) := by
    rw [Binary.ofBits_eq_zero_iff, ← UInt64.toNat_inj, ← UInt64.toNat_inj]
    rfl
  rw [← or_assoc (a := bits = 0), hzero, ← Bool.not_eq_true, isPositive_iff, Binary.isNaN_iff,
    Binary.le_iff, Binary.lt_iff, Binary.lt_iff, Binary.value?_zero, Binary.value?_negOne,
    Binary.ofFloat_ofBits, ← Binary.value?_eq_none_iff]
  cases (Binary.ofBits bits).value? with
  | none => simp
  | some a =>
    have hneg : ((-1 : ℚ) : Binary.Extended) < ((0 : ℚ) : Binary.Extended) :=
      WithBotTop.coe_lt_coe.mpr (by norm_num)
    simp only [Option.mem_def, Option.some.injEq, exists_eq_left', not_le, not_lt, reduceCtorEq,
      false_or]
    constructor
    · rintro ⟨hlow, hhigh⟩
      rcases hhigh.eq_or_lt with rfl | hlt
      · exact .inl rfl
      · exact .inr ⟨hlow, hlt⟩
    · rintro (rfl | ⟨hlow, hlt⟩)
      · exact ⟨hneg, le_refl _⟩
      · exact ⟨hlow, hlt.le⟩

/-- The factorial of an integer part is refused to the numbers up to minus one, and the refusal
names that part. It is granted to every positive number, and it is one where only the first guard
objects. -/
theorem factorial_truncate_refused_iff (bits : UInt64) :
    Binary.IsTruncation (Binary.ofFloat (Float.ofBits bits)).truncate.toInt
      (Binary.ofBits bits).value? ∧
    let x := Float.ofBits bits
    let n := (Binary.ofFloat x).truncate
    let outcome := (factorial n).result
    ((∃ cause, outcome = .error cause) ↔ x ≤ -1) ∧
    (x ≤ -1 → outcome = .error (.negativeFactorial n)) ∧
    (x.isNaN = true ↔ 0x7ff0000000000000 < bits.toNat % 2 ^ 63) ∧
    (isPositive x = true ↔ bits.toNat < 2 ^ 63 ∧ bits ≠ 0 ∧ x.isNaN = false) ∧
    (isPositive x = true → ∃ word, outcome = .ok word) ∧
    (x.isNaN = true ∨ bits = 0 ∨ bits = 0x8000000000000000 ∨ -1 < x ∧ x < 0 ↔
      isPositive x = false ∧ outcome = .ok 1) := by
  refine ⟨?_, ?_⟩
  · rw [← Binary.ofFloat_ofBits]
    exact Binary.isTruncation_truncate _
  intro x n outcome
  refine ⟨⟨?_, ?_⟩, factorial_truncate_of_le, Binary.isNaN_ofBits bits, isPositive_ofBits bits,
    fun h => factorial_truncate_of_not_le (not_le_of_isPositive h), ?_⟩
  · rintro ⟨cause, herror⟩
    by_contra hgt
    obtain ⟨word, hword⟩ := factorial_truncate_of_not_le hgt
    cases hword.symm.trans herror
  · exact fun h => ⟨_, factorial_truncate_of_le h⟩
  · rw [← between_iff]
    constructor
    · rintro ⟨hgt, hrejected⟩
      have hzero : n = 0 := truncate_eq_zero hgt hrejected
      have hone : outcome = (factorial 0).result := congrArg (fun k => (factorial k).result) hzero
      exact ⟨hrejected, hone⟩
    · rintro ⟨hrejected, hone⟩
      refine ⟨fun hle => ?_, hrejected⟩
      cases (factorial_truncate_of_le hle).symm.trans hone

-- Both infinities, the least positive number, the number next to minus one, and a word with the
-- sign bit that is not a number.
theorem factorial_truncate_refused_iff_edges :
    (factorial (Binary.ofFloat (Float.ofBits 0xfff0000000000000)).truncate).result =
      .error (.negativeFactorial Int64.minValue) ∧
    (∃ word, (factorial (Binary.ofFloat (Float.ofBits 0x7ff0000000000000)).truncate).result =
      .ok word) ∧
    isPositive (Float.ofBits 1) = true ∧
    (isPositive (Float.ofBits 0xbfefffffffffffff) = false ∧
      (factorial (Binary.ofFloat (Float.ofBits 0xbfefffffffffffff)).truncate).result = .ok 1) ∧
    isPositive (Float.ofBits 0xfff0000000000001) = false ∧
    (factorial (Binary.ofFloat (Float.ofBits 0xfff0000000000001)).truncate).result = .ok 1 := by
  obtain ⟨_, _, hrefused, _⟩ := factorial_truncate_refused_iff 0xfff0000000000000
  obtain ⟨_, _, _, _, _, hgranted, _⟩ := factorial_truncate_refused_iff 0x7ff0000000000000
  obtain ⟨_, _, _, _, hleast, _⟩ := factorial_truncate_refused_iff 1
  obtain ⟨_, _, _, _, _, _, hbetween⟩ := factorial_truncate_refused_iff 0xbfefffffffffffff
  obtain ⟨_, _, _, hnan, _, _, hnothing⟩ := factorial_truncate_refused_iff 0xfff0000000000001
  refine ⟨hrefused (by decide), hgranted (by decide), hleast.mpr (by decide), ?_, ?_⟩
  · exact hbetween.mp (.inr (.inr (.inr (by decide))))
  · exact hnothing.mp (.inl (hnan.mpr (by decide)))

end Reckoner
