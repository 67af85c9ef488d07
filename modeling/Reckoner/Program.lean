import Reckoner.CommandLine.Help
import Reckoner.CommandLine.Parser
import Reckoner.Event.Console
import Reckoner.Page

/-!
# Program

The program reads its arguments and three variables of its environment, and writes to two
streams. It ends in one of three ways: it prints the page, it prints the help or version text, or
it refuses the arguments. Only a filter at which reading breaks down keeps it from printing the
page.

* `Program.run` is the whole program as a function.
-/

namespace Reckoner

/-- The variables of the environment that matter. -/
structure Environment where
  /-- The filter that replaces the one chosen by the flags. -/
  logFilter : Option String
  /-- Switches styles off unless empty. -/
  noColor : Option String
  /-- Switches colours on unless `0`, and styles unless empty. -/
  forceColor : Option String
deriving DecidableEq, Repr

namespace Environment

/-- Whether colours are forced. The program does not write to a terminal, so there are no colours
otherwise. -/
def forcesColor (environment : Environment) : Bool :=
  environment.forceColor.any (· != "0")

/-- Whether styles are declined. -/
def declinesStyle (environment : Environment) : Bool :=
  environment.noColor.any (! ·.isEmpty)

/-- Whether help and error texts are styled. Any text but the empty one forces styles, also a
`0`, which forces no colours. -/
def stylesTexts (environment : Environment) : Bool :=
  environment.forceColor.any (! ·.isEmpty) && !environment.declinesStyle

/-- Whether there is a filter at which reading breaks down. -/
def tears (environment : Environment) : Bool :=
  environment.logFilter.any Filter.tears

end Environment

namespace Program

/-! ## Console -/

/-- The threshold chosen by the number of verbosity flags. -/
def verbosityThreshold : Nat → Threshold
  | 0 => .upTo .error
  | 1 => .upTo .debug
  | _ => .upTo .trace

/-- The filter chosen by the number of verbosity flags. -/
def verbosityFilter (verbose : Nat) : Filter :=
  [.plain "" (verbosityThreshold verbose)]

/-- The filter of a text that is read. Without any directive it shows errors. -/
def environmentFilter? (text : String) : Option Filter :=
  (Filter.parse text).toOption.map fun filter =>
    if filter.isEmpty then verbosityFilter 0 else filter

/-- The filter in force: the environment's if it has a good one, else the one chosen by the flags.
Printed text is shown in any case. -/
def filter (environment : Environment) (verbose : UInt8) : Filter :=
  ((environment.logFilter.bind environmentFilter?).getD (verbosityFilter verbose.toNat)).add
    Filter.showPrinted

/-- The console of a run. Labels are styled even without colours, unless styles are declined. -/
def console (environment : Environment) (verbose : UInt8) : Console where
  filter := filter environment verbose
  colors := environment.forcesColor
  styledLabels := !environment.declinesStyle

/-! ## Run -/

/-- How a run ends and what it wrote. -/
structure Outcome where
  code : Nat
  stdout : String
  stderr : String
deriving DecidableEq, Repr

/-- The settings of the page. -/
def settings (options : CommandLine.Options) : Settings where
  language := options.language
  noBanner := options.noBanner
  quiet := options.quiet

/-- What is said about an interruption. -/
def complaint (interruption : Walkthrough.Interruption) : String :=
  "Error: " ++ interruption.doing ++ "\n\nCaused by:\n    " ++ interruption.cause.message ++ "\n"

/-- Prints the page. -/
def printPage (options : CommandLine.Options) (environment : Environment) : Outcome :=
  let console := console environment options.verbose
  let page := Page.events console.colors (settings options)
  let output := console.transcript page.entries
  match page.result with
  | .ok () => ⟨0, output, ""⟩
  | .error interruption => ⟨1, output, complaint interruption⟩

/-- A run that breaks down while its filter is read. It has printed nothing; what is then said about
the breakdown differs between builds and is left out. -/
def breakdown : Outcome :=
  ⟨101, "", ""⟩

/-- Runs the program. The arguments are read before the filter. -/
def run (arguments : List String) (environment : Environment) : Outcome :=
  let styled := environment.stylesTexts
  match CommandLine.parse arguments with
  | .ok options => if environment.tears then breakdown else printPage options environment
  | .error .help => ⟨0, CommandLine.helpText.write styled, ""⟩
  | .error .version => ⟨0, CommandLine.versionText.write styled, ""⟩
  | .error (.refused refusal) => ⟨2, "", refusal.text.write styled⟩

end Program

end Reckoner
