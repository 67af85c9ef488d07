import Reckoner.Text.Columns
import Reckoner.Text.Emoji
import Reckoner.Text.Ligature

/-!
# Width of a text

The width of a text is the number of terminal columns it takes. It is nearly the sum over its
characters, but some characters are shown as one with what follows them: a carriage return with
a line feed, the characters of one emoji, and the letters of a ligature. A selector changes how
the character before it is shown. The text is therefore measured from its end, keeping track of
what follows.

* `width` is the width of a text.
-/

namespace Reckoner.Text

/-! ## What follows a character -/

/-- What a text begins with, as far as it changes the width of a character before it. -/
inductive Opening where
  /-- Nothing that changes a width. -/
  | plain
  /-- A line feed. -/
  | lineFeed
  /-- The selector that makes quotation marks wide. -/
  | widening
  /-- The second half of a ligature; `joined` if a joiner stands before it. -/
  | ligature (second : Ligature) (joined : Bool)
  /-- A vowel that combines with the one before it. -/
  | vowel (vowel : Vowel)
  /-- An unfinished emoji. -/
  | emoji (opening : EmojiOpening)
deriving DecidableEq, Repr

/-- How a selector wants the character before it to be shown. -/
inductive Presentation where
  | text
  | emoji
deriving DecidableEq, Repr

/-- What follows a character: a selector, if any, and what the text after it begins with. -/
structure Sequel where
  selector : Option Presentation
  opening : Opening
deriving DecidableEq, Repr

/-- The opening of a text that a selector comes in front of. Ligatures reach over selectors. -/
def Opening.behindSelector : Opening → Opening
  | ligature second joined => ligature second joined
  | _ => plain

/-- The opening of a text that an emoji selector comes in front of. A joiner reaches over it
too. -/
def Opening.behindEmojiSelector : Opening → Opening
  | emoji .joined => emoji .joined
  | emoji .joinedKeycap => emoji .joinedKeycap
  | opening => opening.behindSelector

/-- Whether an emoji is joined to what comes before it. -/
def Opening.isJoined : Opening → Bool
  | emoji .joined | emoji .joinedKeycap => true
  | _ => false

namespace Sequel

/-- A sequel without selector. -/
def bare (opening : Opening) : Sequel := ⟨none, opening⟩

/-- The selector that a character is. -/
def selector? (c : Char) : Option Presentation :=
  if c = '\ufe0e' then some .text
  else if c = '\ufe0f' then some .emoji
  else none

/-- What follows a character in front of a selector and an opening. -/
def select (presentation : Presentation) (opening : Opening) : Sequel where
  selector := some presentation
  opening := match presentation with
    | .text => opening.behindSelector
    | .emoji => opening.behindEmojiSelector

end Sequel

/-! ## One more character -/

/-- The opening that a character is by itself. -/
def Opening.ofChar (c : Char) : Opening :=
  if c = '\ufe01' then .widening
  else match EmojiOpening.ofChar? c, Ligature.ofChar? c, Vowel.ofChar? c with
    | some opening, _, _ => .emoji opening
    | none, some second, _ => .ligature second false
    | none, none, some v => .vowel v
    | none, none, none => .plain

/-- Whether a character is a quotation mark that can be wide. -/
def isWideningQuote (c : Char) : Bool :=
  c = '‘' || c = '’' || c = '“' || c = '”'

/-- The columns that a character adds in front of an opening with which it is shown as one, and
the opening that they are together. -/
def Opening.extend? (opening : Opening) (c : Char) : Option (Int × Opening) :=
  match opening with
  | plain => none
  | lineFeed => none
  | widening => if isWideningQuote c then some (2, plain) else none
  | ligature second joined =>
    (second.extend? joined c).map fun
      | (added, some (second, joined)) => (added, ligature second joined)
      | (added, none) => (added, plain)
  | vowel v =>
    (v.extend? c).map fun (added, rest) => (added, (rest.map vowel).getD plain)
  | emoji opening =>
    (opening.extend? c).map fun (added, rest) => (added, emoji rest)

/-- The columns that a character adds in front of an opening, and what they are together to the
characters before them. -/
def Opening.push (opening : Opening) (c : Char) : Int × Sequel :=
  if c = '\n' then (1, .bare .lineFeed)
  else if c = '\r' ∧ opening = .lineFeed then (0, .bare .plain)
  else if c.toNat ≤ 0xa0 then (1, .bare .plain)
  else match Sequel.selector? c with
    | some presentation => (0, .select presentation opening)
    | none =>
      match opening.extend? c with
      | some (added, rest) => (added, .bare rest)
      | none => (columns c, .bare (.ofChar c))

/-- The columns that a character adds in front of a text, and what it is to the characters before
it. -/
def Sequel.push (next : Sequel) (c : Char) : Int × Sequel :=
  match next.selector with
  | some .emoji =>
    if isSelectable c then (if next.opening.isJoined then 0 else 2, .bare (.emoji .emoji))
    else next.opening.behindSelector.push c
  | some .text =>
    if isNarrowable c then (1, .bare .plain) else next.opening.push c
  | none => next.opening.push c

/-! ## The whole text -/

/-- The columns of a text, and what the text is to the characters before it. -/
def measure : List Char → Int × Sequel
  | [] => (0, .bare .plain)
  | c :: rest =>
    let (total, next) := measure rest
    let (own, sequel) := next.push c
    (own + total, sequel)

/-- The width of a text. -/
def width (text : List Char) : Nat :=
  (measure text).1.toNat

end Reckoner.Text
