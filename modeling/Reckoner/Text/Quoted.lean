import Reckoner.Text.Unprintable

/-!
# Quoted texts and guarded messages

A text among other fields is written between quotes, so that its ends can be seen: quotes and
backslashes are escaped, a few control characters have names, and every other unprintable
character is written by its code point in hexadecimal.

A message stands without quotes. Only the characters that a terminal would obey are written by
their codes there: the escape character, four others, and the second block of controls.

* `quote` writes a text between quotes.
* `guard` writes a message.
-/

namespace Reckoner.Text

/-- Lower-case hexadecimal digits. -/
def hexDigits (n : Nat) : List Char :=
  Nat.toDigits 16 n

/-- A character written by its code point, `\u{1b}`. -/
def byCodePoint (c : Char) : List Char :=
  ['\\', 'u', '\x7b'] ++ hexDigits c.toNat ++ ['\x7d']

/-! ## Quoted texts -/

/-- A character of a quoted text. -/
def quoteChar (c : Char) : List Char :=
  match c with
  | '"' => ['\\', '"']
  | '\\' => ['\\', '\\']
  | '\n' => ['\\', 'n']
  | '\r' => ['\\', 'r']
  | '\t' => ['\\', 't']
  | '\x00' => ['\\', '0']
  | _ => if isUnprintable c then byCodePoint c else [c]

/-- A text between quotes. -/
def quote (text : List Char) : List Char :=
  '"' :: (text.flatMap quoteChar ++ ['"'])

/-! ## Guarded messages -/

/-- A character of a message. -/
def guardChar (c : Char) : List Char :=
  match c with
  | '\x07' => ['\\', 'x', '0', '7']
  | '\x08' => ['\\', 'x', '0', '8']
  | '\x0c' => ['\\', 'x', '0', 'c']
  | '\x1b' => ['\\', 'x', '1', 'b']
  | '\x7f' => ['\\', 'x', '7', 'f']
  | _ => if 0x80 ≤ c.toNat && c.toNat ≤ 0x9f then byCodePoint c else [c]

/-- A message with the characters that a terminal would obey written out. -/
def guard (message : List Char) : List Char :=
  message.flatMap guardChar

end Reckoner.Text
