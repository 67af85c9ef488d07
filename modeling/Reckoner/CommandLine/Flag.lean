/-!
# Flags

The flags that the program knows, with their long and short names. Only the language flag takes
a value.

* `Flag.ofLong?` and `Flag.ofShort?` find a flag by its name.
-/

namespace Reckoner.CommandLine

/-- A flag of the command line. -/
inductive Flag where
  | lang
  | noBanner
  | quiet
  | verbose
  | help
  | version
deriving DecidableEq, Repr

namespace Flag

/-- All flags in the order of the help text. -/
def all : List Flag :=
  [lang, noBanner, quiet, verbose, help, version]

/-- The long name, without dashes. -/
def long : Flag → String
  | lang => "lang"
  | noBanner => "no-banner"
  | quiet => "quiet"
  | verbose => "verbose"
  | help => "help"
  | version => "version"

/-- The short name, without dash. -/
def short? : Flag → Option Char
  | lang => some 'l'
  | noBanner => none
  | quiet => some 'q'
  | verbose => some 'v'
  | help => some 'h'
  | version => some 'V'

/-- Whether a flag sets an option, instead of asking for a text. -/
def isOption : Flag → Bool
  | help => false
  | version => false
  | _ => true

/-- What follows the long name in texts: the value of the language flag, and dots behind a flag
that counts. -/
def tail : Flag → String
  | lang => " <LANG>"
  | quiet => "..."
  | verbose => "..."
  | _ => ""

/-- The long name with its dashes. -/
def dashed (flag : Flag) : String :=
  "--" ++ flag.long

/-- A flag as texts name it. -/
def display (flag : Flag) : String :=
  flag.dashed ++ flag.tail

/-- The flag with a long name; only whole names count. -/
def ofLong? (name : String) : Option Flag :=
  all.find? (·.long == name)

/-- The flag with a short name. -/
def ofShort? (c : Char) : Option Flag :=
  all.find? (·.short? == some c)

end Flag

end Reckoner.CommandLine
