import Reckoner.Text.Style
import Reckoner.Text.Uppercase
import Reckoner.Text.Width

/-!
# Frame of the page

The body of the page stands between rules that are 64 columns wide: a banner with the program's
name and version, a title, a closing text and a footer. Titles stand in brackets, in the middle
of their rule.

The room for a rule's dashes is measured on the text as it is given, before it is set in upper
case. The banner has the same number of dashes on both sides; a title gets the odd one on its
right.

* `Frame.banner`, `Frame.header` and `Frame.footer` are the lines.
-/

namespace Reckoner.Frame

open Text

/-- The width of every rule. -/
def totalWidth : Nat := 64

/-- The program's version. -/
def version : String := "0.1.0"

/-- A text in brackets. -/
def enclose (text : List Char) : List Char :=
  ['⟦', ' '] ++ text ++ [' ', '⟧']

/-- The columns that a text leaves of a rule. -/
def room (text : List Char) : Nat :=
  totalWidth - width text

/-! ## Palette -/

/-- The colour of titles. -/
def titleStyle : Style := .colored .brightGreen

/-- The colour of the banner's text. -/
def bannerStyle : Style := .bold .brightGreen

/-- The colour of rules and separators. -/
def ruleStyle : Style := .colored .brightBlack

/-! ## Lines -/

/-- The text of the banner. -/
def bannerText (version : String) : List Char :=
  enclose ("ABACUS v".toList ++ version.toList)

/-- The banner: half of the room on each side. -/
def banner (colors : Bool) (version : String) : List Char :=
  let text := bannerText version
  let rule := ruleStyle.paintIf colors (List.replicate (room text / 2) '═')
  rule ++ bannerStyle.paintIf colors text ++ rule

/-- A title within its rule, before the rule is painted. -/
def headerLine (colors : Bool) (title : String) : List Char :=
  let text := enclose title.toList
  let left := room text / 2
  let right := room text - left
  List.replicate left '─' ++ titleStyle.paintIf colors (uppercase text) ++
    List.replicate right '─'

/-- A title within its rule. -/
def header (colors : Bool) (title : String) : List Char :=
  ruleStyle.paintIf colors (headerLine colors title)

/-- The rule at the end of the page. -/
def footer (colors : Bool) : List Char :=
  ruleStyle.paintIf colors (List.replicate totalWidth '═')

end Reckoner.Frame
