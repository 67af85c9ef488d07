import Mathlib.Algebra.Order.Field.Power
import Mathlib.Order.Compare
import Mathlib.Order.WithBotTop
import Mathlib.Tactic.NormNum
import Mathlib.Tactic.Positivity
import Mathlib.Tactic.Ring
import Reckoner.Decimal.Binary

/-!
# Order of exact values

Numbers are compared by the fields of their words: first the signs, then the exponents, then the
mantissas. This is the order of what the words stand for, because each mantissa but those of the
least exponent has its hidden bit, so that no number with a smaller exponent reaches it. The
infinities are below and above all other values, and what is not a number has no value, so that
nothing is less than it or greater.

* `Binary.value?`: what a word stands for, as an exact value.
* `Binary.ofUnpacked_unpack`: `Binary.ofBits` reads the fields that are compared.
* `Binary.lt_iff`, `Binary.le_iff`: two numbers compare as their values do.
-/

namespace Reckoner.Decimal

open Float.Model

/-! ## Fields of a word -/

theorem toNat_unpackExponent (word : BitVec 64) :
    (@UnpackedFloat.unpackExponent Format.binary64 word).toNat =
      word.toNat / Binary.hiddenBit % 2048 := by
  change (word.toNat >>> 52) % 2 ^ 11 = _
  rw [Nat.shiftRight_eq_div_pow]
  rfl

theorem toNat_unpackMantissa (word : BitVec 64) :
    (@UnpackedFloat.unpackMantissa Format.binary64 word).toNat =
      word.toNat % Binary.hiddenBit := by
  change (word.toNat >>> 0) % 2 ^ 52 = _
  rfl

/-- A mantissa with its hidden bit. -/
theorem toNat_hidden (fraction : BitVec 52) :
    (1#1 ++ fraction).toNat = Binary.hiddenBit + fraction.toNat := by
  rw [BitVec.toNat_append, ← Nat.shiftLeft_add_eq_or_of_lt fraction.isLt]
  rfl

theorem toNat_unpackSign (word : BitVec 64) :
    (@UnpackedFloat.unpackSign Format.binary64 word).toNat = word.toNat / Binary.signBit := by
  have hlt := word.isLt
  change (word.toNat >>> 63) % 2 ^ 1 = _
  rw [Nat.shiftRight_eq_div_pow]
  unfold Binary.signBit
  omega

def isMinus : UnpackedFloat.Sign → Bool
  | .negative => true
  | .positive => false

theorem isMinus_unpackSign (word : BitVec 64) :
    isMinus (.ofBitVec (@UnpackedFloat.unpackSign Format.binary64 word)) =
      decide (Binary.signBit ≤ word.toNat) := by
  have hsign := toNat_unpackSign word
  unfold Binary.signBit at *
  rw [UnpackedFloat.Sign.ofBitVec]
  by_cases hzero : @UnpackedFloat.unpackSign Format.binary64 word = 0#1
  · rw [hzero] at hsign
    rw [if_pos hzero, isMinus, eq_comm, decide_eq_false_iff_not]
    simp only [BitVec.toNat_ofNat] at hsign
    omega
  · have hone : (@UnpackedFloat.unpackSign Format.binary64 word).toNat ≠ 0 :=
      fun h => hzero (BitVec.eq_of_toNat_eq h)
    rw [if_neg hzero, isMinus, eq_comm, decide_eq_true_iff]
    omega

namespace Binary

/-- What a word with the given fields stands for. -/
def ofUnpacked : UnpackedFloat → Binary
  | .notANumber => .notANumber
  | .infinity sign => .infinite (isMinus sign)
  | .zero sign => .finite (isMinus sign) 0 leastExponent
  | .finite sign m e _ => .finite (isMinus sign) m e

theorem ofUnpacked_finite (sign : UnpackedFloat.Sign) (m : Nat) (e : Int) (h : 0 < m) :
    ofUnpacked (.finite sign m e h) = .finite (isMinus sign) m e := rfl

theorem ofUnpacked_unpack (bits : UInt64) :
    ofUnpacked (UnpackedFloat.unpack Format.binary64 bits.toBitVec) = ofBits bits := by
  have hexponent := toNat_unpackExponent bits.toBitVec
  have hmantissa := toNat_unpackMantissa bits.toBitVec
  have hsign := isMinus_unpackSign bits.toBitVec
  have hword : bits.toBitVec.toNat = bits.toNat := rfl
  rw [hword] at hexponent hmantissa hsign
  have hhidden : (1#1 ++ @UnpackedFloat.unpackMantissa Format.binary64 bits.toBitVec).toNat =
      hiddenBit + bits.toNat % hiddenBit := by
    rw [toNat_hidden, hmantissa]
  have hones : @UnpackedFloat.unpackExponent Format.binary64 bits.toBitVec = -1#11 ↔
      bits.toNat / hiddenBit % 2048 = 2047 := by
    rw [← BitVec.toNat_inj, hexponent]
    rfl
  have hleast : @UnpackedFloat.unpackExponent Format.binary64 bits.toBitVec = 0#11 ↔
      bits.toNat / hiddenBit % 2048 = 0 := by
    rw [← BitVec.toNat_inj, hexponent]
    rfl
  have hnone : @UnpackedFloat.unpackMantissa Format.binary64 bits.toBitVec = 0#52 ↔
      bits.toNat % hiddenBit = 0 := by
    rw [← BitVec.toNat_inj, hmantissa]
    rfl
  unfold UnpackedFloat.unpack ofBits
  dsimp only
  by_cases hinfinite : bits.toNat / hiddenBit % 2048 = 2047
  · rw [if_pos (hones.mpr hinfinite), if_pos hinfinite]
    by_cases hfraction : bits.toNat % hiddenBit = 0
    · rw [if_pos (hnone.mpr hfraction), if_pos hfraction, ← hsign]
      rfl
    · rw [if_neg (mt hnone.mp hfraction), if_neg hfraction]
      rfl
  · rw [if_neg (mt hones.mp hinfinite), if_neg hinfinite]
    by_cases hsmall : bits.toNat / hiddenBit % 2048 = 0
    · rw [if_pos (hleast.mpr hsmall), if_pos hsmall]
      by_cases hfraction : bits.toNat % hiddenBit = 0
      · rw [dif_pos (hnone.mpr hfraction), hfraction, ← hsign]
        rfl
      · rw [dif_neg (mt hnone.mp hfraction), ofUnpacked_finite, hsign, hmantissa, hexponent,
          hsmall]
        rfl
    · rw [if_neg (mt hleast.mp hsmall), if_neg hsmall, ofUnpacked_finite, hsign, hhidden,
        hexponent]
      congr 1
      change _ - ((1023 : Int) + 52) = _
      unfold leastExponent
      omega

/-! ## Exact values -/

/-- A rational number or one of the two infinities. -/
abbrev Extended := WithBotTop ℚ

/-- The number `± mantissa · 2 ^ exponent`. -/
def rational (negative : Bool) (m : Nat) (e : Int) : ℚ :=
  if negative then -((m : ℚ) * 2 ^ e) else (m : ℚ) * 2 ^ e

/-- The exact value of a word, unless it is not a number. -/
def value? : Binary → Option Extended
  | notANumber => none
  | infinite true => some ⊥
  | infinite false => some ⊤
  | finite negative m e => some (rational negative m e : Extended)

theorem rational_zero (negative : Bool) (e : Int) : rational negative 0 e = 0 := by
  simp [rational]

theorem rational_true (m : Nat) (e : Int) : rational true m e = -rational false m e := rfl

theorem rational_pos {m : Nat} (h : 0 < m) (e : Int) : 0 < rational false m e := by
  have hm : (0 : ℚ) < m := by exact_mod_cast h
  simp only [rational, Bool.false_eq_true, if_false]
  positivity

theorem rational_neg {m : Nat} (h : 0 < m) (e : Int) : rational true m e < 0 := by
  rw [rational_true]
  exact neg_neg_of_pos (rational_pos h e)

/-! ## Exponents before mantissas -/

/-- A mantissa has the hidden bit unless its exponent is the least. -/
def Normal (m : Nat) (e : Int) : Prop :=
  m < 2 * hiddenBit ∧ leastExponent ≤ e ∧ (hiddenBit ≤ m ∨ e = leastExponent)

/-- A finite value is given as a word gives it. -/
def Canonical : Binary → Prop
  | finite _ m e => Normal m e
  | _ => True

theorem canonical_ofBits (bits : UInt64) : (ofBits bits).Canonical := by
  have hfraction : bits.toNat % hiddenBit < hiddenBit := Nat.mod_lt _ (by decide)
  unfold ofBits
  dsimp only
  split
  · split <;> trivial
  · split
    · exact ⟨by omega, le_refl _, .inr rfl⟩
    · exact ⟨by omega, by omega, .inl (by omega)⟩

/-- One more in the exponent outweighs every mantissa. -/
theorem magnitude_lt {m m' : Nat} {e e' : Int} (h : Normal m e) (h' : Normal m' e')
    (hlt : e < e') : (m : ℚ) * 2 ^ e < m' * 2 ^ e' := by
  obtain ⟨hbelow, hleast, _⟩ := h
  obtain ⟨_, _, hhidden⟩ := h'
  have hm : (m : ℚ) < 2 * hiddenBit := by
    exact_mod_cast hbelow
  have hm' : (hiddenBit : ℚ) ≤ m' := by
    have hbit : hiddenBit ≤ m' := by omega
    exact_mod_cast hbit
  have hpower : (2 : ℚ) ^ (e + 1) ≤ 2 ^ e' :=
    zpow_le_zpow_right₀ (by norm_num) (by omega)
  calc (m : ℚ) * 2 ^ e < 2 * hiddenBit * 2 ^ e := by gcongr
    _ = hiddenBit * 2 ^ (e + 1) := by
      rw [zpow_add_one₀ (by norm_num)]
      ring
    _ ≤ hiddenBit * 2 ^ e' := by gcongr
    _ ≤ m' * 2 ^ e' := by gcongr

theorem compare_magnitude {m m' : Nat} {e e' : Int} (h : Normal m e) (h' : Normal m' e') :
    (compare e e').then (compare m m') = compare ((m : ℚ) * 2 ^ e) (m' * 2 ^ e') := by
  rcases lt_trichotomy e e' with hlt | rfl | hgt
  · rw [compare_lt_iff_lt.mpr hlt, compare_lt_iff_lt.mpr (magnitude_lt h h' hlt)]
    rfl
  · have hpos : (0 : ℚ) < 2 ^ e := by positivity
    rw [compare_eq_iff_eq.mpr rfl, Ordering.then]
    rcases lt_trichotomy m m' with hlt | rfl | hgt
    · rw [compare_lt_iff_lt.mpr hlt, compare_lt_iff_lt.mpr (by gcongr)]
    · rw [compare_eq_iff_eq.mpr rfl, compare_eq_iff_eq.mpr rfl]
    · rw [compare_gt_iff_gt.mpr hgt, compare_gt_iff_gt.mpr (by gcongr)]
  · rw [compare_gt_iff_gt.mpr hgt, compare_gt_iff_gt.mpr (magnitude_lt h' h hgt)]
    rfl

theorem compare_neg (p q : ℚ) : compare (-p) (-q) = (compare p q).swap := by
  rcases lt_trichotomy p q with hlt | rfl | hgt
  · rw [compare_lt_iff_lt.mpr hlt, compare_gt_iff_gt.mpr (by simpa using hlt)]
    rfl
  · rw [compare_eq_iff_eq.mpr rfl, compare_eq_iff_eq.mpr rfl]
    rfl
  · rw [compare_gt_iff_gt.mpr hgt, compare_lt_iff_lt.mpr (by simpa using hgt)]
    rfl

theorem compare_rational {m m' : Nat} {e e' : Int} (h : Normal m e) (h' : Normal m' e')
    (negative : Bool) :
    compare (rational negative m e) (rational negative m' e') =
      if negative then ((compare e e').then (compare m m')).swap
      else (compare e e').then (compare m m') := by
  rw [compare_magnitude h h']
  cases negative with
  | false => rfl
  | true => exact compare_neg _ _

theorem compare_coe (p q : ℚ) : compare (p : Extended) (q : Extended) = compare p q := by
  rcases lt_trichotomy p q with hlt | rfl | hgt
  · rw [compare_lt_iff_lt.mpr hlt, compare_lt_iff_lt.mpr (WithBotTop.coe_lt_coe.mpr hlt)]
  · rw [compare_eq_iff_eq.mpr rfl, compare_eq_iff_eq.mpr rfl]
  · rw [compare_gt_iff_gt.mpr hgt, compare_gt_iff_gt.mpr (WithBotTop.coe_lt_coe.mpr hgt)]

/-! ## Comparison -/

theorem compare_values (p q : ℚ) :
    ((some (p : Extended)).bind fun a => (some (q : Extended)).map (compare a)) =
      some (compare p q) := by
  rw [Option.bind_some, Option.map_some, compare_coe]

theorem compare_unpacked (u v : UnpackedFloat) (hu : (ofUnpacked u).Canonical)
    (hv : (ofUnpacked v).Canonical) :
    u.compare v = (ofUnpacked u).value?.bind fun a => (ofUnpacked v).value?.map (compare a) := by
  cases u with
  | notANumber => rfl
  | infinity s =>
    cases v with
    | notANumber => cases s <;> rfl
    | infinity s' => cases s <;> cases s' <;> rfl
    | zero s' => cases s <;> rfl
    | finite s' m' e' hpos' => cases s <;> rfl
  | zero s =>
    cases v with
    | notANumber => rfl
    | infinity s' => cases s' <;> rfl
    | zero s' =>
      refine Eq.trans ?_ (compare_values _ _).symm
      rw [rational_zero, rational_zero]
      rfl
    | finite s' m' e' hpos' =>
      refine Eq.trans ?_ (compare_values _ _).symm
      rw [rational_zero]
      cases s' with
      | positive => exact congrArg some (compare_lt_iff_lt.mpr (rational_pos hpos' e')).symm
      | negative => exact congrArg some (compare_gt_iff_gt.mpr (rational_neg hpos' e')).symm
  | finite s m e hpos =>
    cases v with
    | notANumber => rfl
    | infinity s' => cases s' <;> cases s <;> rfl
    | zero s' =>
      refine Eq.trans ?_ (compare_values _ _).symm
      rw [rational_zero]
      cases s with
      | positive => exact congrArg some (compare_gt_iff_gt.mpr (rational_pos hpos e)).symm
      | negative => exact congrArg some (compare_lt_iff_lt.mpr (rational_neg hpos e)).symm
    | finite s' m' e' hpos' =>
      have hlt : rational true m e < rational false m' e' :=
        (rational_neg hpos e).trans (rational_pos hpos' e')
      have hgt : rational true m' e' < rational false m e :=
        (rational_neg hpos' e').trans (rational_pos hpos e)
      refine Eq.trans ?_ (compare_values _ _).symm
      -- only numbers of one sign are compared by their fields
      cases s <;> cases s'
      · exact congrArg some (compare_rational hu hv true).symm
      · exact congrArg some (compare_lt_iff_lt.mpr hlt).symm
      · exact congrArg some (compare_gt_iff_gt.mpr hgt).symm
      · exact congrArg some (compare_rational hu hv false).symm

theorem compare_toModel (x y : Float) :
    x.toModel.unpack.compare y.toModel.unpack =
      (ofFloat x).value?.bind fun a => (ofFloat y).value?.map (compare a) := by
  have hread : ∀ z : Float, ofUnpacked z.toModel.unpack = ofFloat z :=
    fun z => ofUnpacked_unpack z.toBits
  have hcanonical : ∀ z : Float, (ofUnpacked z.toModel.unpack).Canonical := by
    intro z
    rw [hread]
    exact canonical_ofBits z.toBits
  rw [compare_unpacked _ _ (hcanonical x) (hcanonical y), hread, hread]

theorem lt_iff (x y : Float) :
    x < y ↔ ∃ a ∈ (ofFloat x).value?, ∃ b ∈ (ofFloat y).value?, a < b := by
  have hlt : x < y ↔ x.toModel.unpack.compare y.toModel.unpack = some .lt := by
    change decide _ = true ↔ _
    rw [decide_eq_true_iff]
    exact beq_iff_eq
  rw [hlt, compare_toModel]
  simp only [Option.bind_eq_some_iff, Option.map_eq_some_iff, compare_lt_iff_lt, Option.mem_def]

theorem le_iff (x y : Float) :
    x ≤ y ↔ ∃ a ∈ (ofFloat x).value?, ∃ b ∈ (ofFloat y).value?, a ≤ b := by
  have hle : x ≤ y ↔
      ∃ order, x.toModel.unpack.compare y.toModel.unpack = some order ∧ order.isLE = true := by
    change decide _ = true ↔ _
    rw [decide_eq_true_iff]
    change Option.any _ _ = true ↔ _
    rw [Option.any_eq_true]
  rw [hle, compare_toModel]
  simp only [Option.bind_eq_some_iff, Option.map_eq_some_iff, Option.mem_def]
  constructor
  · rintro ⟨_, ⟨a, ha, b, hb, rfl⟩, hisLE⟩
    exact ⟨a, ha, b, hb, compare_le_iff_le.mp (Ordering.ne_gt_iff_isLE.mpr hisLE)⟩
  · rintro ⟨a, ha, b, hb, hab⟩
    exact ⟨_, ⟨a, ha, b, hb, rfl⟩, Ordering.ne_gt_iff_isLE.mp (compare_le_iff_le.mpr hab)⟩

end Binary

end Reckoner.Decimal
