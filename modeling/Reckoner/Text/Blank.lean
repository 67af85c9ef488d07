import Reckoner.Text.CodeRange

/-!
# Blanks

The characters that only take room, and texts without the blanks around them.

* `trim` takes the blanks from both ends of a text.
* `trim_isPrefix`: a text that does not start with a blank only loses blanks at its end.
-/

namespace Reckoner.Text

/-- Code points of blanks. -/
def blankRanges : List CodeRange :=
  [⟨0x9, 0xd⟩, ⟨0x20, 0x20⟩, ⟨0x85, 0x85⟩, ⟨0xa0, 0xa0⟩, ⟨0x1680, 0x1680⟩, ⟨0x2000, 0x200a⟩,
   ⟨0x2028, 0x2029⟩, ⟨0x202f, 0x202f⟩, ⟨0x205f, 0x205f⟩, ⟨0x3000, 0x3000⟩]

/-- Whether a character is a blank. -/
def isBlank (c : Char) : Bool :=
  CodeRange.covers blankRanges c

/-- A text without the blanks around it. -/
def trim (text : List Char) : List Char :=
  ((text.dropWhile isBlank).reverse.dropWhile isBlank).reverse

theorem trim_sublist (text : List Char) : (trim text).Sublist text := by
  have hback : (trim text).Sublist (text.dropWhile isBlank) := by
    rw [← List.reverse_sublist, trim, List.reverse_reverse]
    exact List.dropWhile_sublist isBlank
  exact hback.trans (List.dropWhile_sublist isBlank)

/-- Nothing is added to a text. -/
theorem mem_of_mem_trim {c : Char} {text : List Char} (h : c ∈ trim text) : c ∈ text :=
  (trim_sublist text).mem h

/-- A text that does not start with a blank only loses blanks at its end. -/
theorem trim_isPrefix {text : List Char} (h : ∀ c ∈ text.head?, isBlank c = false) :
    trim text <+: text := by
  have hfront : text.dropWhile isBlank = text := by
    cases text with
    | nil => rfl
    | cons c rest => exact List.dropWhile_cons_of_neg (by simp [h c rfl])
  have hback : text.reverse.dropWhile isBlank <:+ text.reverse := List.dropWhile_suffix isBlank
  rw [trim, hfront, ← List.reverse_suffix, List.reverse_reverse]
  exact hback

end Reckoner.Text
