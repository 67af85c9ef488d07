import Reckoner.Proofs.Text.Legible
import Reckoner.Text.Rich
import Reckoner.Text.Uppercase

/-!
# Texts without escape characters

No text that is computed has an escape character. Quoted texts and messages write an escape
character by its code, of which the digits are legible; the upper-case form of a text has no
escape character unless the text has one; and nothing that a terminal shows is one.

* `escape_not_mem_quote`, `escape_not_mem_guard`: quoted texts and messages.
* `escape_not_mem_uppercase`: upper-case forms.
* `RichText.escape_not_mem_write`: help and error texts without styles.
-/

namespace Reckoner.Text

/-! ## Quoted texts and messages -/

/-- A code point is written with digits and brackets, none of which is an escape character. -/
theorem escape_not_mem_byCodePoint (c : Char) : escape ∉ byCodePoint c := by
  have hdigits := (legible_toDigits (by decide : 1 < 16) (by decide) c.toNat).not_mem
    (show isLegible escape = false from rfl)
  have hbefore : escape ∉ ['\\', 'u', '\x7b'] := by decide
  have hafter : escape ∉ ['\x7d'] := by decide
  rw [byCodePoint, hexDigits, List.mem_append, List.mem_append, not_or, not_or]
  exact ⟨⟨hbefore, hdigits⟩, hafter⟩

theorem escape_not_mem_quoteChar (c : Char) : escape ∉ quoteChar c := by
  unfold quoteChar
  split
  all_goals try decide
  split
  · exact escape_not_mem_byCodePoint c
  · rename_i hprintable
    intro hmem
    rw [← List.mem_singleton.mp hmem] at hprintable
    exact absurd (by decide) hprintable

/-- A quoted text writes what cannot be printed by its code point, escape characters included. -/
theorem escape_not_mem_quote (text : List Char) : escape ∉ quote text := by
  have hquote : escape ≠ '"' := by decide
  simp only [quote, List.mem_cons, List.mem_append, List.mem_flatMap, List.not_mem_nil, or_false,
    not_or, not_exists, not_and]
  exact ⟨hquote, fun c _ => escape_not_mem_quoteChar c, hquote⟩

theorem escape_not_mem_guardChar (c : Char) : escape ∉ guardChar c := by
  unfold guardChar
  split
  all_goals try decide
  rename_i hescape _
  split
  · exact escape_not_mem_byCodePoint c
  · intro hmem
    exact hescape (List.mem_singleton.mp hmem).symm

/-- A message lets line breaks through, but no escape character. -/
theorem escape_not_mem_guard (message : List Char) : escape ∉ guard message := by
  simp only [guard, List.mem_flatMap, not_exists, not_and]
  exact fun c _ => escape_not_mem_guardChar c

/-! ## Upper case -/

/-- A number that is no code point stands for another character. -/
theorem eq_of_ofNat_eq_escape {n : Nat} (h : Char.ofNat n = escape) : n = 0x1b := by
  have hcode := congrArg Char.toNat h
  by_cases hvalid : n.isValidChar
  · rw [Char.ofNat, dif_pos hvalid] at hcode
    exact hcode
  · rw [Char.ofNat, dif_neg hvalid] at hcode
    exact absurd hcode (by decide)

/-- Among the ASCII characters only the escape character becomes one. -/
theorem toUpper_ne_escape {c : Char} (hascii : c.toNat < 128) (h : c ≠ escape) :
    c.toUpper ≠ escape := by
  have hall : ∀ n < 128, Char.ofNat n ≠ escape → (Char.ofNat n).toUpper ≠ escape := by
    decide +kernel
  have hc : Char.ofNat c.toNat = c := Char.ofNat_toNat c
  rw [← hc] at h ⊢
  exact hall c.toNat hascii h

theorem escape_not_mem_expansion {code : Nat} {codes : List Nat}
    (h : caseExpansions.lookup code = some codes) : escape ∉ codes.map Char.ofNat := by
  have hall : ∀ entry ∈ caseExpansions, escape ∉ entry.2.map Char.ofNat := by
    decide +kernel
  obtain ⟨before, after, hsplit, _⟩ := List.lookup_eq_some_iff.mp h
  refine hall (code, codes) ?_
  rw [hsplit]
  simp

theorem escape_not_mem_uppercaseChar {c : Char} (h : c ≠ escape) :
    escape ∉ uppercaseChar c := by
  unfold uppercaseChar
  split
  · rename_i hascii
    simpa using (toUpper_ne_escape hascii h).symm
  · split
    · rename_i codes hcodes
      exact escape_not_mem_expansion hcodes
    · split
      · rename_i run hrun
        -- no run leads down to the control characters
        have hall : ∀ run ∈ caseRuns, (0x1b : Int) < run.first + run.shift := by
          decide +kernel
        have hshift := hall run (List.mem_of_find?_eq_some hrun)
        have hfirst : run.first ≤ c.toNat := by
          have hcontains := List.find?_some hrun
          simp only [CaseRun.contains, Bool.and_eq_true, decide_eq_true_eq] at hcontains
          exact hcontains.1.1
        intro hmem
        have hcode := eq_of_ofNat_eq_escape (List.mem_singleton.mp hmem).symm
        omega
      · simpa using h.symm

/-- Upper case brings no escape character into a text. -/
theorem escape_not_mem_uppercase {text : List Char} (h : escape ∉ text) :
    escape ∉ uppercase text := by
  simp only [uppercase, List.mem_flatMap, not_exists, not_and]
  intro c hc
  refine escape_not_mem_uppercaseChar ?_
  rintro rfl
  exact h hc

/-! ## Rich texts -/

theorem escape_not_shown (terminal : Terminal) : terminal.shows escape = false := by
  cases terminal <;> decide

/-- Whatever sequence a terminal is in, an escape character starts a new one. -/
theorem escape_not_mem_display (terminal : Terminal) (text : List Char) :
    escape ∉ terminal.display text := by
  induction text generalizing terminal with
  | nil => exact List.not_mem_nil
  | cons c rest ih =>
    rw [Terminal.display]
    split
    · rename_i hshows
      have hne : escape ≠ c := by
        rintro rfl
        rw [escape_not_shown] at hshows
        cases hshows
      simp [hne, ih]
    · exact ih _

/-- Without styles no text is written with an escape character, whatever its words are. -/
theorem RichText.escape_not_mem_write (text : RichText) : escape ∉ (text.write false).toList := by
  simpa [RichText.write, visible] using escape_not_mem_display .text text.compose

/-- With styles one emphasised part is enough. -/
theorem RichText.escape_mem_write {text : RichText} {emphasis : Emphasis} {words : String}
    (h : .emphasised emphasis words ∈ text) : escape ∈ (text.write true).toList := by
  have hspan : escape ∈ Span.compose (.emphasised emphasis words) := by
    simp [Span.compose, reset, Text.sequence]
  have hcompose : escape ∈ text.compose := List.mem_flatMap.mpr ⟨_, h, hspan⟩
  simpa [RichText.write] using hcompose

end Reckoner.Text
