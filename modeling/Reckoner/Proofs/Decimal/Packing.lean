import Reckoner.Proofs.Decimal.Order

/-!
# Numbers made from words

A number is made from a word by reading the fields of the word and writing them back. The words
that are not a number all become the same one; every other word is kept as it is, because the
fields that are written are those that were read.

* `toNat_packComponents`, `packComponents_unpack`: writing the fields of a word.
* `pack_unpack`: a word is kept, unless it is not a number.
* `Binary.ofFloat_ofBits`: a number has the exact value of the word it was made from.
-/

namespace Reckoner.Decimal

open Float.Model

/-! ## Writing fields -/

theorem toNat_packComponents (sign : UnpackedFloat.Sign) (exponent : BitVec 11)
    (mantissa : BitVec 52) :
    (UnpackedFloat.packComponents Format.binary64 sign exponent mantissa).toNat =
      (if isMinus sign then Binary.signBit else 0) + exponent.toNat * Binary.hiddenBit +
        mantissa.toNat := by
  have hsign : sign.toBitVec.toNat = if isMinus sign then 1 else 0 := by
    cases sign <;> rfl
  change (sign.toBitVec ++ exponent ++ mantissa).toNat = _
  rw [BitVec.toNat_append, ← Nat.shiftLeft_add_eq_or_of_lt mantissa.isLt, BitVec.toNat_append,
    ← Nat.shiftLeft_add_eq_or_of_lt exponent.isLt, hsign, Nat.shiftLeft_eq, Nat.shiftLeft_eq]
  unfold Binary.signBit Binary.hiddenBit
  split <;> omega

/-- The fields of a word make up the word. -/
theorem packComponents_unpack {word : BitVec 64} {exponent : BitVec 11} {mantissa : BitVec 52}
    (hexponent : @UnpackedFloat.unpackExponent Format.binary64 word = exponent)
    (hmantissa : @UnpackedFloat.unpackMantissa Format.binary64 word = mantissa) :
    UnpackedFloat.packComponents Format.binary64
      (.ofBitVec (@UnpackedFloat.unpackSign Format.binary64 word)) exponent mantissa = word := by
  have hlt := word.isLt
  apply BitVec.eq_of_toNat_eq
  rw [toNat_packComponents, isMinus_unpackSign, ← hexponent, ← hmantissa, toNat_unpackExponent,
    toNat_unpackMantissa]
  unfold Binary.signBit Binary.hiddenBit
  by_cases hnegative : 0x8000000000000000 ≤ word.toNat
  · rw [if_pos (decide_eq_true hnegative)]
    omega
  · rw [if_neg (by simpa using hnegative)]
    omega

/-! ## Reading and writing -/

theorem pack_finite (sign : UnpackedFloat.Sign) (m : Nat) (e : Int) (h : 0 < m) :
    UnpackedFloat.pack Format.binary64 (.finite sign m e h) =
      if 2048 ≤ (e + 1023 + 52).toNat + 1 then UnpackedFloat.packedInfinity Format.binary64 sign
      else if m.log2 + 1 = 53 then
        UnpackedFloat.packComponents Format.binary64 sign
          (BitVec.ofNat 11 (e + 1023 + 52).toNat) (BitVec.ofNat 52 m)
      else UnpackedFloat.packComponents Format.binary64 sign 0#11 (BitVec.ofNat 52 m) := rfl

section

variable {word : BitVec 64}

theorem pack_unpack_of_least
    (hleast : @UnpackedFloat.unpackExponent Format.binary64 word = 0#11)
    (h : 0 < (@UnpackedFloat.unpackMantissa Format.binary64 word).toNat) {e : Int}
    (he : e = Binary.leastExponent) :
    UnpackedFloat.pack Format.binary64
      (.finite (.ofBitVec (@UnpackedFloat.unpackSign Format.binary64 word))
        (@UnpackedFloat.unpackMantissa Format.binary64 word).toNat e h) = word := by
  have hlog : (@UnpackedFloat.unpackMantissa Format.binary64 word).toNat.log2 < 52 :=
    (Nat.log2_lt (Nat.ne_of_gt h)).mpr (BitVec.isLt _)
  rw [pack_finite, he, if_neg (by decide), if_neg (by omega), BitVec.ofNat_toNat,
    BitVec.setWidth_eq]
  exact packComponents_unpack hleast rfl

theorem pack_unpack_of_hidden
    (hones : @UnpackedFloat.unpackExponent Format.binary64 word ≠ -1#11)
    (h : 0 < (1#1 ++ @UnpackedFloat.unpackMantissa Format.binary64 word).toNat) :
    UnpackedFloat.pack Format.binary64
      (.finite (.ofBitVec (@UnpackedFloat.unpackSign Format.binary64 word))
        (1#1 ++ @UnpackedFloat.unpackMantissa Format.binary64 word).toNat
        ((@UnpackedFloat.unpackExponent Format.binary64 word).toNat - (1023 + 52)) h) = word := by
  have hfraction : (@UnpackedFloat.unpackMantissa Format.binary64 word).toNat < 2 ^ 52 :=
    BitVec.isLt _
  have hbiased : (@UnpackedFloat.unpackExponent Format.binary64 word).toNat < 2 ^ 11 :=
    BitVec.isLt _
  have hmost : (@UnpackedFloat.unpackExponent Format.binary64 word).toNat ≠ 2047 :=
    fun heq => hones (BitVec.eq_of_toNat_eq heq)
  have hkept : ((@UnpackedFloat.unpackExponent Format.binary64 word).toNat - (1023 + 52) +
      1023 + 52 : Int).toNat = (@UnpackedFloat.unpackExponent Format.binary64 word).toNat := by
    omega
  have hlog : (Binary.hiddenBit +
      (@UnpackedFloat.unpackMantissa Format.binary64 word).toNat).log2 = 52 := by
    unfold Binary.hiddenBit
    rw [Nat.log2_eq_iff (by omega)]
    omega
  rw [pack_finite, hkept, toNat_hidden, if_neg (by omega), if_pos (by omega),
    BitVec.ofNat_toNat, BitVec.setWidth_eq]
  refine packComponents_unpack rfl (BitVec.eq_of_toNat_eq ?_)
  change _ = (Binary.hiddenBit + _) % 2 ^ 52
  unfold Binary.hiddenBit
  omega

/-- A word is kept by reading and writing its fields, unless it is not a number. -/
theorem pack_unpack
    (h : @UnpackedFloat.unpackExponent Format.binary64 word = -1#11 →
      @UnpackedFloat.unpackMantissa Format.binary64 word = 0#52) :
    UnpackedFloat.pack Format.binary64 (UnpackedFloat.unpack Format.binary64 word) = word := by
  unfold UnpackedFloat.unpack
  dsimp only
  by_cases hones : @UnpackedFloat.unpackExponent Format.binary64 word = -1#11
  · rw [if_pos hones, if_pos (h hones)]
    exact packComponents_unpack hones (h hones)
  · rw [if_neg hones]
    by_cases hleast : @UnpackedFloat.unpackExponent Format.binary64 word = 0#11
    · rw [if_pos hleast]
      by_cases hnone : @UnpackedFloat.unpackMantissa Format.binary64 word = 0#52
      · rw [dif_pos hnone]
        exact packComponents_unpack hleast hnone
      · rw [dif_neg hnone]
        refine pack_unpack_of_least hleast _ ?_
        rw [hleast]
        rfl
    · rw [if_neg hleast]
      exact pack_unpack_of_hidden hones _

end

/-! ## Exact values -/

/-- All words that are not a number make the same one, and the others are kept as they are. -/
theorem Binary.ofFloat_ofBits (bits : UInt64) : ofFloat (Float.ofBits bits) = ofBits bits := by
  have hpacked : (Float.ofBits bits).toBits.toBitVec =
      (UnpackedFloat.unpack Format.binary64 bits.toBitVec).pack Format.binary64 := rfl
  rw [ofFloat, ← ofUnpacked_unpack, ← ofUnpacked_unpack, hpacked]
  by_cases h : @UnpackedFloat.unpackExponent Format.binary64 bits.toBitVec = -1#11 →
      @UnpackedFloat.unpackMantissa Format.binary64 bits.toBitVec = 0#52
  · rw [pack_unpack h]
  · obtain ⟨hones, hfraction⟩ := Classical.not_imp.mp h
    have hnan : UnpackedFloat.unpack Format.binary64 bits.toBitVec = .notANumber := by
      unfold UnpackedFloat.unpack
      dsimp only
      rw [if_pos hones, if_neg hfraction]
    rw [hnan]
    rfl

end Reckoner.Decimal
