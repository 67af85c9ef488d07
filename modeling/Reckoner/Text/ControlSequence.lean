import Reckoner.Text.CodeRange
import Reckoner.Text.Style

/-!
# Control sequences

A terminal does not show everything it is sent. An escape character starts a sequence that ends
with a final character; some sequences carry a string with an end of its own, and control
characters act without being shown. What is shown of a text is found by following the terminal
from character to character.

A blank control character, such as a line feed, acts within a sequence too and breaks it off.

* `visible` is what a terminal shows of a text.
* `visible_append`: a text without control characters but blanks is shown as it is.
* `visible_sequence_append`: nothing is shown of a style sequence.
-/

namespace Reckoner.Text

/-! ## Characters -/

/-- Whether a character is a control character. -/
def isControl (c : Char) : Bool :=
  c.toNat < 0x20 || c.toNat == 0x7f

/-- Whether a control character is a blank, which is sent on. -/
def isBlankControl (c : Char) : Bool :=
  c = '\t' || c = '\n' || c = '\x0c' || c = '\r'

/-- Whether a character is shown in a text. -/
def isShown (c : Char) : Bool :=
  !isControl c || isBlankControl c

/-- Whether a character can stand before the final one of a short sequence. -/
def isIntermediate (c : Char) : Bool :=
  (CodeRange.mk 0x20 0x2f).contains c.toNat

/-- Whether a character ends a short sequence. -/
def isShortFinal (c : Char) : Bool :=
  (CodeRange.mk 0x30 0x7e).contains c.toNat

/-- Whether a character is part of the parameters of a sequence. -/
def isParameter (c : Char) : Bool :=
  (CodeRange.mk 0x20 0x3f).contains c.toNat

/-- Whether a character ends a sequence with parameters. -/
def isFinal (c : Char) : Bool :=
  (CodeRange.mk 0x40 0x7e).contains c.toNat

/-- Whether a character cancels any sequence. -/
def isCancel (c : Char) : Bool :=
  c = '\x18' || c = '\x1a'

/-- Whether the byte that terminates strings is among the bytes of a character. -/
def hasTerminator (c : Char) : Bool :=
  (String.ofList [c]).toUTF8.toList.contains 0x9c

/-! ## The terminal -/

/-- What a terminal expects. -/
inductive Terminal where
  /-- Text. -/
  | text
  /-- The kind of a sequence. -/
  | escape
  /-- The end of a short sequence. -/
  | short
  /-- The parameters of a sequence and its end. -/
  | parameters
  /-- A string for the system, up to a bell. -/
  | system
  /-- The parameters of a string for a device. -/
  | device
  /-- A string that is passed on. -/
  | passing
deriving DecidableEq, Repr

namespace Terminal

/-- The kind of sequence that starts with an escape character and `c`. -/
def sequenceKind (c : Char) : Terminal :=
  if c = '[' then parameters
  else if c = ']' then system
  else if c = 'P' then device
  else if c = 'X' ∨ c = '^' ∨ c = '_' then passing
  else if isIntermediate c then short
  else if isShortFinal c then text
  else escape

/-- The terminal after a character that is not shown. -/
def next (terminal : Terminal) (c : Char) : Terminal :=
  if isCancel c then text
  else if c = Text.escape then escape
  else
    match terminal with
    | text => text
    | escape => sequenceKind c
    | short => if isShortFinal c then text else short
    | parameters => if isFinal c then text else parameters
    | system => if c = '\x07' then text else system
    | device => if isFinal c then passing else device
    | passing => if hasTerminator c then text else passing

/-- Whether a character is shown. -/
def shows (terminal : Terminal) (c : Char) : Bool :=
  match terminal with
  | text => isShown c
  | escape | short | parameters => isBlankControl c
  | system | device | passing => false

/-- What a terminal shows of a text. A character that is shown ends what came before it. -/
def display : Terminal → List Char → List Char
  | _, [] => []
  | terminal, c :: rest =>
    if terminal.shows c then c :: display text rest else display (terminal.next c) rest

end Terminal

/-- What is shown of a text. -/
def visible (text : List Char) : List Char :=
  Terminal.text.display text

/-! ## Laws -/

/-- A character that is shown leaves the terminal as it was. -/
theorem visible_cons {c : Char} (h : isShown c = true) (rest : List Char) :
    visible (c :: rest) = c :: visible rest := by
  simp [visible, Terminal.display, Terminal.shows, h]

/-- A text of characters that are shown leaves the terminal as it was. -/
theorem visible_append {text : List Char} (h : ∀ c ∈ text, isShown c = true)
    (rest : List Char) : visible (text ++ rest) = text ++ visible rest := by
  induction text with
  | nil => rfl
  | cons c text ih =>
    rw [List.cons_append, visible_cons (h c List.mem_cons_self), List.cons_append,
      ih fun d hd => h d (List.mem_cons_of_mem c hd)]

/-- A parameter keeps a sequence open. -/
theorem next_parameter {c : Char} (h : isParameter c = true) :
    Terminal.parameters.shows c = false ∧ Terminal.parameters.next c = .parameters := by
  have bounds : 0x20 ≤ c.toNat ∧ c.toNat ≤ 0x3f := by
    simpa [isParameter, CodeRange.contains] using h
  have differs (d : Char) (hd : d.toNat < 0x20) : c ≠ d := by
    rintro rfl
    omega
  have unfinished : isFinal c = false := by
    simp [isFinal, CodeRange.contains]
    omega
  simp [Terminal.shows, isBlankControl, Terminal.next, isCancel, unfinished, escape, differs]

/-- Parameters are not shown. -/
theorem display_parameters_append {codes : List Char} (h : ∀ c ∈ codes, isParameter c = true)
    (rest : List Char) :
    Terminal.parameters.display (codes ++ 'm' :: rest) = visible rest := by
  induction codes with
  | nil => rfl
  | cons c codes ih =>
    obtain ⟨hidden, stays⟩ := next_parameter (h c List.mem_cons_self)
    rw [List.cons_append, Terminal.display, if_neg (by simp [hidden]), stays,
      ih fun d hd => h d (List.mem_cons_of_mem c hd)]

/-- Nothing is shown of a style sequence. -/
theorem visible_sequence_append {codes : List Char} (h : ∀ c ∈ codes, isParameter c = true)
    (rest : List Char) : visible (sequence codes ++ rest) = visible rest := by
  rw [← display_parameters_append h rest]
  simp [visible, sequence, Terminal.display, Terminal.shows, Terminal.next, Terminal.sequenceKind,
    escape, isShown, isControl, isBlankControl, isCancel]

end Reckoner.Text
