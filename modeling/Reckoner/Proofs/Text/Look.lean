import Reckoner.Proofs.Machine
import Reckoner.Proofs.Text.Adorned

/-!
# Looks of a text

A terminal reads a text character by character. Characters outside of style sequences are shown
in the look that the codes read so far have built up; a style sequence changes that look and
shows nothing. Codes are numbers: zero goes back to the plain look, and every other one changes
one property and leaves the others.

* `Pen.read`: how a terminal takes one character.
* `Draws before text cells after`: from the look `before` a terminal shows `cells` of a text, and
  has the look `after` at its end.
* `draws_opening`: the codes of a style mean what its name says.
* `draws_paint`: a painted text is shown in its style, and the look is plain at its end.
* `draws_paint_around`: so is a painted text with another one inside, which keeps its own style.
-/

namespace Reckoner.Text

/-! ## Looks -/

/-- The colours of a terminal, in the order of their codes. -/
inductive Hue where
  | black
  | red
  | green
  | yellow
  | blue
  | magenta
  | cyan
  | white
deriving DecidableEq, Repr

def Hue.all : List Hue := [black, red, green, yellow, blue, magenta, cyan, white]

structure Ink where
  hue : Hue
  bright : Bool
deriving DecidableEq, Repr

/-- The colour that a code stands for: usual ones from 30 on, bright ones from 90 on. -/
def Ink.ofCode? (code : Nat) : Option Ink :=
  if code < 30 then none
  else if code < 90 then Hue.all[code - 30]?.map (⟨·, false⟩)
  else Hue.all[code - 90]?.map (⟨·, true⟩)

/-- How a character is shown. -/
structure Look where
  ink : Option Ink
  bold : Bool
  dim : Bool
  italic : Bool
deriving DecidableEq, Repr

namespace Look

def plain : Look := ⟨none, false, false, false⟩

def inked (hue : Hue) (bright : Bool) : Look := { plain with ink := some ⟨hue, bright⟩ }

/-- What a code makes of a look. -/
def apply (look : Look) (code : Nat) : Look :=
  if code = 0 then plain
  else if code = 1 then { look with bold := true }
  else if code = 2 then { look with dim := true }
  else if code = 3 then { look with italic := true }
  else { look with ink := (Ink.ofCode? code).or look.ink }

/-- A text that is shown in one look. -/
def cells (look : Look) (text : List Char) : List (Char × Look) := text.map (·, look)

end Look

/-! ## Reading -/

/-- What a terminal is in the middle of. -/
inductive Reading where
  | text
  /-- An escape character has been read. -/
  | escaped
  /-- Of a style sequence, some codes have been read and the last one as far as `last`. -/
  | codes (before : List Nat) (last : Nat)
deriving DecidableEq, Repr

structure Pen where
  reading : Reading
  look : Look
deriving DecidableEq, Repr

namespace Pen

/-- What is shown for a character, and the state after it. A sequence that does not end with `m`
changes nothing. -/
def read (pen : Pen) (c : Char) : Option (Char × Look) × Pen :=
  if c = escape then (none, { pen with reading := .escaped })
  else
    match pen.reading with
    | .text => (some (c, pen.look), pen)
    | .escaped => (none, { pen with reading := if c = '[' then .codes [] 0 else .text })
    | .codes before last =>
      if c.isDigit then
        (none, { pen with reading := .codes before (10 * last + (c.toNat - '0'.toNat)) })
      else if c = ';' then (none, { pen with reading := .codes (before ++ [last]) 0 })
      else if c = 'm' then (none, ⟨.text, (before ++ [last]).foldl Look.apply pen.look⟩)
      else (none, { pen with reading := .text })

/-- What is shown of a text, and the state after it. -/
def draw (pen : Pen) (text : List Char) : List (Char × Look) × Pen :=
  ((Machine.run read pen text).1.filterMap id, Machine.after read pen text)

theorem draw_append (pen : Pen) (text rest : List Char) :
    pen.draw (text ++ rest) =
      ((pen.draw text).1 ++ ((pen.draw text).2.draw rest).1, ((pen.draw text).2.draw rest).2) := by
  simp only [draw, Machine.run_append, Machine.after_append, List.filterMap_append]

end Pen

/-- What is shown of a text on a terminal that has read nothing else. -/
def shown (text : List Char) : List (Char × Look) := (Pen.draw ⟨.text, .plain⟩ text).1

/-- A terminal with the look `before` shows `cells` of a text and then has the look `after`. -/
def Draws (before : Look) (text : List Char) (cells : List (Char × Look)) (after : Look) : Prop :=
  Pen.draw ⟨.text, before⟩ text = (cells, ⟨.text, after⟩)

theorem Draws.shown_eq {text : List Char} {cells : List (Char × Look)} {after : Look}
    (h : Draws .plain text cells after) : shown text = cells := by
  rw [shown, h]

theorem Draws.append {before between after : Look} {text rest : List Char}
    {cells others : List (Char × Look)} (h : Draws before text cells between)
    (h' : Draws between rest others after) :
    Draws before (text ++ rest) (cells ++ others) after := by
  rw [Draws, Pen.draw_append, h, h']

/-! ## Text and style sequences -/

theorem draws_nil (look : Look) : Draws look [] [] look := rfl

theorem Draws.cons {c : Char} (hc : c ≠ escape) {before after : Look} {text : List Char}
    {cells : List (Char × Look)} (h : Draws before text cells after) :
    Draws before (c :: text) ((c, before) :: cells) after := by
  have hread : Pen.read ⟨.text, before⟩ c = (some (c, before), ⟨.text, before⟩) := if_neg hc
  have hfirst : Draws before [c] [(c, before)] before := by
    simp [Draws, Pen.draw, Machine.run, Machine.after, hread]
  exact hfirst.append h

theorem draws_text {text : List Char} (h : escape ∉ text) (look : Look) :
    Draws look text (look.cells text) look := by
  induction text with
  | nil => exact draws_nil look
  | cons c rest ih =>
    rw [List.mem_cons, not_or] at h
    exact (ih h.2).cons (Ne.symm h.1)

theorem draws_reset (look : Look) : Draws look reset [] .plain := rfl

def Color.ink : Color → Ink
  | red => ⟨.red, false⟩
  | green => ⟨.green, false⟩
  | yellow => ⟨.yellow, false⟩
  | blue => ⟨.blue, false⟩
  | white => ⟨.white, false⟩
  | brightBlack => ⟨.black, true⟩
  | brightGreen => ⟨.green, true⟩
  | brightCyan => ⟨.cyan, true⟩

/-- What a style makes of a look. -/
def Style.onto : Style → Look → Look
  | colored color, look => { look with ink := some color.ink }
  | bold color, look => { look with ink := some color.ink, bold := true }
  | dimmed, look => { look with dim := true }

theorem draws_opening (style : Style) (look : Look) :
    Draws look style.opening [] (style.onto look) := by
  cases style with
  | colored color => cases color <;> rfl
  | bold color => cases color <;> rfl
  | dimmed => rfl

/-! ## Painted texts -/

theorem draws_paint {text : List Char} (h : escape ∉ text) (style : Style) (look : Look) :
    Draws look (style.paint text) ((style.onto look).cells text) .plain := by
  have htext := (draws_opening style look).append (draws_text h (style.onto look))
  have hend := htext.append (draws_reset (style.onto look))
  rw [Style.paint, reopen_of_not_mem h]
  simpa using hend

theorem draws_paintIf {text : List Char} (h : escape ∉ text) (wanted : Bool) (style : Style) :
    Draws .plain (style.paintIf wanted text)
      ((if wanted then style.onto .plain else .plain).cells text) .plain := by
  cases wanted with
  | false => exact draws_text h .plain
  | true => exact draws_paint h style .plain

theorem reopen_opening (opening : List Char) (style : Style) (rest : List Char) :
    reopen opening (style.opening ++ rest) = style.opening ++ reopen opening rest := by
  have hstyle : style.codes ≠ ['0'] := by
    cases style with
    | colored color => cases color <;> decide
    | bold color => cases color <;> decide
    | dimmed => decide
  rw [Style.opening, reopen_sequence (isCode_of_mem_codes style), if_neg hstyle, List.nil_append]

theorem reopen_paint {text : List Char} (h : escape ∉ text) (opening : List Char) (style : Style)
    (rest : List Char) :
    reopen opening (style.paint text ++ rest) =
      style.paint text ++ (opening ++ reopen opening rest) := by
  have hreset : reopen opening (reset ++ rest) = reset ++ (opening ++ reopen opening rest) := by
    rw [← List.append_assoc]
    rfl
  rw [Style.paint, reopen_of_not_mem h]
  simp only [List.append_assoc]
  -- neither the inner opening nor the text is a reset, so only the end is followed by `opening`
  rw [reopen_opening, reopen_append h, hreset]

/-- A painted text within a painted text. The inner one ends with a reset, and what follows it is
in the outer style because that is opened again. -/
theorem draws_paint_around {before text after : List Char} (hbefore : escape ∉ before)
    (htext : escape ∉ text) (hafter : escape ∉ after) (outer inner : Style) :
    Draws .plain (outer.paint (before ++ inner.paint text ++ after))
      ((outer.onto .plain).cells before ++ (inner.onto (outer.onto .plain)).cells text ++
        (outer.onto .plain).cells after) .plain := by
  have hleft := (draws_opening outer .plain).append (draws_text hbefore (outer.onto .plain))
  have hmiddle := draws_paint htext inner (outer.onto .plain)
  have hright := (draws_opening outer .plain).append (draws_text hafter (outer.onto .plain))
  have hend := ((hleft.append hmiddle).append hright).append (draws_reset (outer.onto .plain))
  rw [Style.paint, List.append_assoc before, reopen_append hbefore, reopen_paint htext,
    reopen_of_not_mem hafter]
  simpa using hend

end Reckoner.Text
