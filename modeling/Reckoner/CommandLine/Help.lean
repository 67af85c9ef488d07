import Reckoner.CommandLine.Refusal
import Reckoner.Frame
import Reckoner.Language

/-!
# Help and version

The help text says what the program does and lists its flags, with their descriptions in one
column.

* `helpText` and `versionText` are the texts.
-/

namespace Reckoner.CommandLine

open Text

/-- What a flag does. -/
def Flag.description : Flag → String
  | lang =>
    "Language of the printed output (en, pt) [default: " ++ Language.default.code ++ "]"
  | noBanner => "Do not print the banner"
  | quiet => "Hide banner and headers"
  | verbose => "Show debug (-v) or trace (-vv) logs from the calculator core"
  | help => "Print help"
  | version => "Print version"

/-- The short name of a flag, or blanks in its place. -/
def Flag.shortColumn (flag : Flag) : RichText :=
  match flag.short? with
  | some c => [.emphasised .literal (String.ofList ['-', c]), .plain ", "]
  | none => [.plain "    "]

/-- The width of the column of long names. -/
def longColumnWidth : Nat :=
  (Flag.all.map (·.display.length)).foldl max 0

/-- The line of a flag. -/
def Flag.helpLine (flag : Flag) : RichText :=
  let padding := String.ofList (List.replicate (longColumnWidth - flag.display.length) ' ')
  .plain "  " :: (flag.shortColumn ++
    [.emphasised .literal flag.dashed,
      .plain (flag.tail ++ padding ++ "  " ++ flag.description ++ "\n")])

/-- The help text. -/
def helpText : RichText :=
  .plain "Walks through a calculator, a calculator manager and a factorial.\n\n" ::
    (Refusal.usage [] ++ [.plain "\n\n", .emphasised .heading "Options:", .plain "\n"] ++
      Flag.all.flatMap Flag.helpLine)

/-- The version text. -/
def versionText : RichText :=
  [.plain (programName ++ " " ++ Frame.version ++ "\n")]

end Reckoner.CommandLine
