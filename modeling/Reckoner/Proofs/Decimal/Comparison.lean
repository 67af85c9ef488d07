import Reckoner.Decimal.Binary

/-!
# Comparison with zero

A binary64 number compares equal to zero iff its word is one of the two zeros, whatever its
sign. The comparison goes by the parts of the word: the sign is not looked at, and a word
whose exponent and fraction are both zero has nothing but its sign.

* `beq_zero_iff`: the numbers that compare equal to zero are the two words `0` and `2 ^ 63`.
-/

namespace Reckoner.Decimal

open Float.Model

theorem exponent_fraction_eq_zero_iff (word : BitVec 64) :
    (@UnpackedFloat.unpackExponent Format.binary64 word = 0#11 ∧
      @UnpackedFloat.unpackMantissa Format.binary64 word = 0#52) ↔
      word = 0#64 ∨ word = 0x8000000000000000#64 := by
  have hlt := word.isLt
  simp only [UnpackedFloat.unpackExponent, UnpackedFloat.unpackMantissa, ← BitVec.toNat_inj,
    BitVec.extractLsb_toNat, BitVec.toNat_cast, BitVec.toNat_ofNat, Nat.shiftRight_eq_div_pow]
  simp only [Nat.reduceAdd, Nat.reduceSub, Nat.reducePow, Nat.zero_mod, Nat.div_one]
  omega

theorem unpack_eq_zero_iff (word : BitVec 64) :
    (∃ sign, UnpackedFloat.unpack Format.binary64 word = .zero sign) ↔
      word = 0#64 ∨ word = 0x8000000000000000#64 := by
  rw [← exponent_fraction_eq_zero_iff]
  unfold UnpackedFloat.unpack
  dsimp only
  by_cases hones : @UnpackedFloat.unpackExponent Format.binary64 word = -1#11
  · -- The all-ones exponent is not that of a zero.
    rw [if_pos hones, hones]
    by_cases hfraction : @UnpackedFloat.unpackMantissa Format.binary64 word = 0#52
    · rw [if_pos hfraction]
      simp
    · rw [if_neg hfraction]
      simp
  · rw [if_neg hones]
    by_cases hexponent : @UnpackedFloat.unpackExponent Format.binary64 word = 0#11
    · rw [if_pos hexponent]
      by_cases hfraction : @UnpackedFloat.unpackMantissa Format.binary64 word = 0#52
      · rw [dif_pos hfraction]
        exact ⟨fun _ => ⟨hexponent, hfraction⟩, fun _ => ⟨_, rfl⟩⟩
      · rw [dif_neg hfraction]
        constructor
        · rintro ⟨_, h⟩
          cases h
        · intro h
          exact absurd h.2 hfraction
    · rw [if_neg hexponent]
      constructor
      · rintro ⟨_, h⟩
        cases h
      · intro h
        exact absurd h.1 hexponent

theorem beq_zero_positive_iff (u : UnpackedFloat) :
    u.beq (.zero .positive) = true ↔ ∃ sign, u = .zero sign := by
  -- Whatever is not a zero is greater or smaller than it, or is not compared at all.
  have hother : ∀ v : UnpackedFloat, v.beq (.zero .positive) = false → (∀ sign, v ≠ .zero sign) →
      (v.beq (.zero .positive) = true ↔ ∃ sign, v = .zero sign) := by
    intro v hv hne
    rw [hv]
    constructor
    · intro h
      cases h
    · rintro ⟨sign, h⟩
      exact absurd h (hne sign)
  cases u with
  | infinity sign =>
    refine hother _ ?_ fun _ h => by cases h
    cases sign <;> rfl
  | notANumber => exact hother _ rfl fun _ h => by cases h
  | zero sign => exact ⟨fun _ => ⟨sign, rfl⟩, fun _ => rfl⟩
  | finite sign mantissa exponent hpos =>
    refine hother _ ?_ fun _ h => by cases h
    cases sign <;> rfl

/-- The numbers that compare equal to zero are the two zeros, bit for bit. -/
theorem beq_zero_iff (x : Float) :
    (x == 0) = true ↔ x.toBits = 0 ∨ x.toBits = 0x8000000000000000 := by
  have hzero : (0 : Float).toModel.unpack = .zero .positive := rfl
  change x.toModel.unpack.beq (0 : Float).toModel.unpack = true ↔ _
  rw [hzero, beq_zero_positive_iff, ← UInt64.toBitVec_inj, ← UInt64.toBitVec_inj]
  exact unpack_eq_zero_iff x.toBits.toBitVec

end Reckoner.Decimal
