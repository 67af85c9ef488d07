/-!
# Styled texts

A terminal changes its style at control sequences `ESC [ codes m`. A painted text stands between
the sequence of its style and the sequence that resets the style. Resetting is total, so a
painted text inside a painted text would end the outer style as well: the outer sequence is
repeated after every reset inside.

* `Style.paint` paints a text.
* `Style.paintIf` paints it only where colours are wanted.
-/

namespace Reckoner.Text

/-- The escape character, with which every control sequence starts. -/
def escape : Char := '\x1b'

/-- The control sequence with the given codes. -/
def sequence (codes : List Char) : List Char :=
  escape :: '[' :: (codes ++ ['m'])

/-- The sequence that resets the style. -/
def reset : List Char :=
  sequence ['0']

/-- The colours in use. -/
inductive Color where
  | red
  | green
  | yellow
  | blue
  | white
  | brightBlack
  | brightGreen
  | brightCyan
deriving DecidableEq, Repr

/-- The code of a colour. -/
def Color.code : Color → List Char
  | red => ['3', '1']
  | green => ['3', '2']
  | yellow => ['3', '3']
  | blue => ['3', '4']
  | white => ['3', '7']
  | brightBlack => ['9', '0']
  | brightGreen => ['9', '2']
  | brightCyan => ['9', '6']

/-- A style is a colour, a bold colour, or dimmed text. -/
inductive Style where
  | colored (color : Color)
  | bold (color : Color)
  | dimmed
deriving DecidableEq, Repr

namespace Style

/-- The codes of a style; boldness comes first. -/
def codes : Style → List Char
  | colored color => color.code
  | bold color => '1' :: ';' :: color.code
  | dimmed => ['2']

/-- The sequence that begins a style. -/
def opening (style : Style) : List Char :=
  sequence style.codes

end Style

/-- Repeats `opening` after every reset. -/
def reopen (opening : List Char) : List Char → List Char
  | '\x1b' :: '[' :: '0' :: 'm' :: rest => reset ++ opening ++ reopen opening rest
  | c :: rest => c :: reopen opening rest
  | [] => []

/-- A text without escape characters has no reset. -/
theorem reopen_of_not_mem {opening text : List Char} (h : escape ∉ text) :
    reopen opening text = text := by
  fun_induction reopen opening text with
  | case1 rest ih => simp [escape] at h
  | case2 c rest _ ih => rw [ih (fun hm => h (List.mem_cons_of_mem c hm))]
  | case3 => rfl

namespace Style

/-- A painted text. Empty texts are painted too. -/
def paint (style : Style) (text : List Char) : List Char :=
  style.opening ++ reopen style.opening text ++ reset

/-- A text that is painted if colours are wanted. -/
def paintIf (wanted : Bool) (style : Style) (text : List Char) : List Char :=
  if wanted then style.paint text else text

end Style

end Reckoner.Text
