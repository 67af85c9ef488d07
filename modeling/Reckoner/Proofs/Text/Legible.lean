import Mathlib.Data.List.Basic
import Reckoner.Decimal.Layout
import Reckoner.Text.Quoted

/-!
# Legible texts

A text is legible if all its characters are ASCII characters that stand for themselves. Such a
text has neither a line break nor an escape character, and a message that is legible is written
as it is. Written numbers are legible: they have digits, signs, points and a few letters.

* `Legible.not_mem`: what a legible text does not have.
* `legible_write`, `legible_writeInteger`: written numbers.
* `guard_of_legible`: legible messages.
-/

namespace Reckoner.Text

/-- Whether a character is an ASCII character that stands for itself. -/
def isLegible (c : Char) : Bool :=
  decide (0x20 ≤ c.toNat) && decide (c.toNat < 0x7f)

/-- A text of such characters. -/
def Legible (text : List Char) : Prop := ∀ c ∈ text, isLegible c = true

instance (text : List Char) : Decidable (Legible text) :=
  decidable_of_iff (text.all isLegible = true) List.all_eq_true

/-- Neither a line break nor an escape character is legible, nor is anything beyond ASCII. -/
theorem Legible.not_mem {text : List Char} (h : Legible text) {c : Char}
    (hc : isLegible c = false) : c ∉ text := by
  intro hmem
  rw [h c hmem] at hc
  cases hc

theorem legible_append {text rest : List Char} :
    Legible (text ++ rest) ↔ Legible text ∧ Legible rest :=
  List.forall_mem_append

theorem legible_cons {c : Char} {rest : List Char} :
    Legible (c :: rest) ↔ isLegible c = true ∧ Legible rest :=
  List.forall_mem_cons

theorem Legible.take {text : List Char} (h : Legible text) (n : Nat) : Legible (text.take n) :=
  fun c hc => h c (List.mem_of_mem_take hc)

theorem Legible.drop {text : List Char} (h : Legible text) (n : Nat) : Legible (text.drop n) :=
  fun c hc => h c (List.mem_of_mem_drop hc)

/-! ## Numbers -/

theorem isLegible_digitChar : ∀ n < 16, isLegible (Nat.digitChar n) = true := by
  decide

/-- Digits are legible in every base that has letters for them. -/
theorem legible_toDigits {base : Nat} (hlow : 1 < base) (hhigh : base ≤ 16) (n : Nat) :
    Legible (Nat.toDigits base n) := by
  induction n using Nat.strongRecOn with
  | ind n ih =>
    rw [Nat.toDigits_eq_if hlow]
    split
    · exact List.forall_mem_singleton.mpr (isLegible_digitChar n (by omega))
    · have hrest := ih (n / base) (Nat.div_lt_self (by omega) hlow)
      have hdigit := isLegible_digitChar (n % base)
        (Nat.lt_of_lt_of_le (Nat.mod_lt n (by omega)) hhigh)
      exact legible_append.mpr ⟨hrest, List.forall_mem_singleton.mpr hdigit⟩

open Decimal

theorem legible_digitsOf (n : Nat) : Legible (Layout.digitsOf n) :=
  legible_toDigits (by decide) (by decide) n

theorem legible_integerOf (n : Int) : Legible (Layout.integerOf n) := by
  have hdigits := legible_digitsOf n.natAbs
  unfold Layout.integerOf
  split
  · exact legible_cons.mpr ⟨by decide, hdigits⟩
  · exact hdigits

theorem legible_wholeTail (layout : Layout) : Legible layout.wholeTail := by
  unfold Layout.wholeTail
  split <;> decide

/-- The layout adds zeros and a point to the digits. -/
theorem legible_positional (layout : Layout) {digits : List Char} (h : Legible digits)
    (exponent : Int) : Legible (layout.positional digits exponent) := by
  have hzeros : ∀ n, Legible (List.replicate n '0') := by
    intro n c hc
    rw [List.eq_of_mem_replicate hc]
    decide
  unfold Layout.positional
  dsimp only
  split
  · simp only [legible_append]
    exact ⟨⟨h, hzeros _⟩, legible_wholeTail layout⟩
  · split
    · simp only [legible_append, legible_cons]
      exact ⟨h.take _, by decide, h.drop _⟩
    · simp only [legible_append, legible_cons]
      exact ⟨by decide, by decide, hzeros _, h⟩

theorem legible_withExponent {digits : List Char} (h : Legible digits) (leading : Int) :
    Legible (Layout.withExponent digits leading) := by
  unfold Layout.withExponent
  simp only [legible_append, legible_cons]
  refine ⟨⟨h.take 1, ?_⟩, by decide, legible_integerOf leading⟩
  split
  · decide
  · exact legible_cons.mpr ⟨by decide, h.drop 1⟩

theorem legible_numeral (layout : Layout) (n : Numeral) : Legible (layout.numeral n) := by
  have hdigits := legible_digitsOf n.digits
  unfold Layout.numeral
  dsimp only
  split
  · exact legible_withExponent hdigits _
  · exact legible_positional layout hdigits _

/-- Every number is written legibly, also an infinity and what is not a number. -/
theorem legible_write (layout : Layout) (x : Float) : Legible (layout.write x).toList := by
  have hsign : ∀ negative, Legible (Layout.signOf negative) := by decide
  rw [Layout.write, String.toList_ofList]
  cases Binary.ofFloat x with
  | notANumber =>
    change Legible ['N', 'a', 'N']
    decide
  | infinite negative => exact legible_append.mpr ⟨hsign negative, by decide⟩
  | finite negative mantissa exponent =>
    refine legible_append.mpr ⟨hsign negative, ?_⟩
    split
    · exact legible_cons.mpr ⟨by decide, legible_wholeTail layout⟩
    · exact legible_numeral layout _

theorem legible_writeInteger (n : Int) : Legible (writeInteger n).toList := by
  rw [writeInteger, String.toList_ofList]
  exact legible_integerOf n

/-! ## Messages -/

theorem guardChar_of_isLegible {c : Char} (h : isLegible c = true) : guardChar c = [c] := by
  obtain ⟨hlow, hhigh⟩ : 0x20 ≤ c.toNat ∧ c.toNat < 0x7f := by
    simpa [isLegible] using h
  unfold guardChar
  split
  -- the characters that are written by their codes are not legible
  all_goals try exact absurd h (by decide)
  rw [if_neg (by simp; omega)]

/-- Nothing in a legible message has to be written by its code. -/
theorem guard_of_legible {text : List Char} (h : Legible text) : guard text = text := by
  induction text with
  | nil => rfl
  | cons c rest ih =>
    obtain ⟨hc, hrest⟩ := legible_cons.mp h
    rw [guard, List.flatMap_cons, guardChar_of_isLegible hc]
    exact congrArg (c :: ·) (ih hrest)

end Reckoner.Text
