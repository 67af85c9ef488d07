import Reckoner.Text.ControlSequence

/-!
# Rich texts

Help and error texts have emphasised parts. An emphasised part stands between the sequences of
its emphasis and a reset. Where no styles are wanted only the visible part of the text is
written, so that control sequences in words that the text repeats go as well.

* `RichText.write` writes a text with or without styles.
* `visible_compose_append`: without styles a part is written as its words.
-/

namespace Reckoner.Text

/-- Why a part of a text stands out. -/
inductive Emphasis where
  /-- Headings. -/
  | heading
  /-- What is typed literally. -/
  | literal
  /-- The word that announces an error. -/
  | alarm
  /-- What is wrong. -/
  | invalid
  /-- What would be right. -/
  | valid
deriving DecidableEq, Repr

/-- The sequences that begin an emphasis. -/
def Emphasis.opening : Emphasis → List Char
  | heading => sequence ['1'] ++ sequence ['4']
  | literal => sequence ['1']
  | alarm => sequence ['1'] ++ sequence ['3', '1']
  | invalid => sequence ['3', '3']
  | valid => sequence ['3', '2']

/-- A part of a rich text. -/
inductive Span where
  | plain (text : String)
  | emphasised (emphasis : Emphasis) (text : String)
deriving DecidableEq, Repr

/-- A text with emphasised parts. -/
abbrev RichText := List Span

namespace Span

/-- The words of a part. -/
def text : Span → List Char
  | plain text => text.toList
  | emphasised _ text => text.toList

/-- A part with the sequences of its emphasis. -/
def compose : Span → List Char
  | plain text => text.toList
  | emphasised emphasis text => emphasis.opening ++ text.toList ++ reset

end Span

namespace RichText

/-- A text with all its sequences. -/
def compose (text : RichText) : List Char :=
  text.flatMap Span.compose

/-- A rich text as it is written. -/
def write (styled : Bool) (text : RichText) : String :=
  String.ofList (if styled then text.compose else visible text.compose)

end RichText

/-! ## Texts without styles -/

/-- Nothing is shown of the beginning of an emphasis. -/
theorem visible_opening_append (emphasis : Emphasis) (rest : List Char) :
    visible (emphasis.opening ++ rest) = visible rest := by
  cases emphasis <;>
    simp only [Emphasis.opening, List.append_assoc] <;>
    repeat rw [visible_sequence_append (by simp [isParameter, CodeRange.contains])]

/-- A part of characters that are shown is shown without its sequences. -/
theorem visible_compose_append {span : Span} (h : ∀ c ∈ span.text, isShown c = true)
    (rest : List Char) : visible (span.compose ++ rest) = span.text ++ visible rest := by
  cases span with
  | plain text => exact visible_append h rest
  | emphasised emphasis text =>
    have words := visible_append (show ∀ c ∈ text.toList, isShown c = true from h) (reset ++ rest)
    rw [Span.compose, List.append_assoc, List.append_assoc, visible_opening_append, words, reset,
      visible_sequence_append (by simp [isParameter, CodeRange.contains]), Span.text]

end Reckoner.Text
