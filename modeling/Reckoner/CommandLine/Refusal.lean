import Reckoner.CommandLine.Flag
import Reckoner.CommandLine.Similarity
import Reckoner.Text.Rich

/-!
# Refused arguments

A refusal says what is wrong with the arguments. Its text has one line that names the fault, a
paragraph on usage for most faults, a tip if a similar flag exists, and a pointer to the help
text.

* `Refusal.headline` names the fault.
* `Refusal.text` is the whole text.
* `Refusal.summary` is its first line.
-/

namespace Reckoner.CommandLine

open Text

/-- The name under which the program is called. -/
def programName : String := "abacus"

/-- Why arguments are refused. -/
inductive Refusal where
  /-- The language flag has no value. -/
  | missingValue
  /-- The value of the language flag names no language. -/
  | invalidValue (value reason : String)
  /-- A flag is given twice that may be given once. -/
  | repeated (flag : Flag)
  /-- A flag without value has one; `used` are the flags before it. -/
  | unexpectedValue (flag : Flag) (value : String) (used : List Flag)
  /-- A long flag is not known; `used` are the flags before it. -/
  | unknownFlag (name : String) (used : List Flag)
  /-- A short flag is not known, or a word is out of place. -/
  | unknownWord (word : String)
deriving DecidableEq, Repr

namespace Refusal

/-- The fault itself. -/
def fault : Refusal → RichText
  | missingValue =>
    [.plain "a value is required for '", .emphasised .invalid Flag.lang.display,
      .plain "' but none was supplied"]
  | invalidValue value reason =>
    [.plain "invalid value '", .emphasised .invalid value, .plain "' for '",
      .emphasised .literal Flag.lang.display, .plain ("': " ++ reason)]
  | repeated flag =>
    [.plain "the argument '", .emphasised .invalid flag.display,
      .plain "' cannot be used multiple times"]
  | unexpectedValue flag value _ =>
    [.plain "unexpected value '", .emphasised .invalid value, .plain "' for '",
      .emphasised .literal flag.display, .plain "' found; no more were expected"]
  | unknownFlag name _ =>
    [.plain "unexpected argument '", .emphasised .invalid ("--" ++ name), .plain "' found"]
  | unknownWord word =>
    [.plain "unexpected argument '", .emphasised .invalid word, .plain "' found"]

/-- The fault with the word that announces it. -/
def headline (refusal : Refusal) : RichText :=
  .emphasised .alarm "error:" :: .plain " " :: refusal.fault

/-! ## Usage -/

/-- How the program is used, with the given options. -/
def usageWith (options : RichText) : RichText :=
  .emphasised .heading "Usage:" :: .plain " " :: .emphasised .literal programName :: options

/-- A flag among the options. -/
def option (flag : Flag) : RichText :=
  [.plain " ", .emphasised .literal flag.dashed, .plain flag.tail]

/-- How the program is used, with the given flags or with any. -/
def usage (flags : List Flag) : RichText :=
  usageWith (if flags.isEmpty then [.plain " [OPTIONS]"] else flags.flatMap option)

/-- All flags that set an option, as alternatives. -/
def alternatives : String :=
  "<" ++ "|".intercalate ((Flag.all.filter Flag.isOption).map Flag.display) ++ ">"

/-- How the program is used with a flag, where `used` are the flags before it. Once a flag has
set an option, such flags are not named one by one. -/
def usageOf (flag : Flag) (used : List Flag) : RichText :=
  if used.isEmpty then usage [flag]
  else
    usageWith ((if flag.isOption then [] else option flag) ++ [.plain (" " ++ alternatives)])

/-- Adds a flag to the ones in use, unless it is among them. -/
def withFlag (used : List Flag) (flag : Flag) : List Flag :=
  if used.contains flag then used else used ++ [flag]

/-- The paragraphs between the headline and the pointer to the help text. -/
def advice : Refusal → List RichText
  | missingValue => []
  | invalidValue _ _ => []
  | repeated _ => [usage []]
  | unexpectedValue flag _ used => [usageOf flag used]
  | unknownFlag name used =>
    match Similarity.best? Flag.long Flag.all name with
    | some flag =>
      [[.plain "  ", .emphasised .valid "tip:", .plain " a similar argument exists: '",
          .emphasised .valid flag.dashed, .plain "'"],
        usage (withFlag used flag)]
    | none => [usage used]
  | unknownWord _ => [usage []]

/-- The pointer to the help text. -/
def pointer : RichText :=
  [.plain "For more information, try '", .emphasised .literal Flag.help.dashed, .plain "'.\n"]

/-- The whole text of a refusal: its paragraphs are separated by empty lines. -/
def text (refusal : Refusal) : RichText :=
  (refusal.headline :: refusal.advice).flatMap (· ++ [.plain "\n\n"]) ++ pointer

/-- The first line of a text. A carriage return before a line feed is part of the line break. -/
def firstLine (text : List Char) : List Char :=
  let line := text.takeWhile (· != '\n')
  if line.length < text.length ∧ line.getLast? = some '\r' then line.dropLast else line

/-- A refusal in one line without styles. A word that the text repeats may break the line, or
hide a line break. -/
def summary (refusal : Refusal) : String :=
  String.ofList (firstLine (refusal.text.write false).toList)

end Refusal

end Reckoner.CommandLine
