import Reckoner.CommandLine.Refusal
import Reckoner.Language

/-!
# Reading the command line

Arguments are read from left to right, and the first one at fault is the answer. A long flag is
`--name` or `--name=value`, a short one is a letter in a cluster `-qvq`. The language flag takes
the rest of its argument as value or else the next argument. Everything after `--` is a word, and
words are not accepted.

A value that stands in an argument of its own is looked at only when the next known flag is met
or the arguments end, so that a fault right after it is reported first.

* `CommandLine.parse` reads the arguments.
-/

namespace Reckoner.CommandLine

/-- What the arguments ask for. -/
structure Options where
  language : Language
  noBanner : Bool
  quiet : UInt8
  verbose : UInt8
deriving DecidableEq, Repr

/-- The options without any argument. -/
def Options.default : Options where
  language := .default
  noBanner := false
  quiet := 0
  verbose := 0

/-- Why reading ends before the page can be printed. -/
inductive Stop where
  | help
  | version
  | refused (refusal : Refusal)
deriving DecidableEq, Repr

/-- A language flag whose value is still to be looked at. -/
inductive Pending where
  | nothing
  /-- The flag is met and its value is the next argument. -/
  | awaiting
  /-- The value is met. -/
  | given (value : String)
deriving DecidableEq, Repr

/-- How far reading has come. -/
structure Reading where
  options : Options
  /-- The flags met so far, by their last occurrences. -/
  used : List Flag
  pending : Pending
  /-- Whether `--` was met. -/
  wordsOnly : Bool
deriving DecidableEq, Repr

namespace Reading

/-- Nothing is read yet. -/
def start : Reading where
  options := .default
  used := []
  pending := .nothing
  wordsOnly := false

/-- Ends with a refusal. -/
def refuse {α : Type} (refusal : Refusal) : Except Stop α :=
  .error (.refused refusal)

/-- Moves a flag to the end of the flags in use. -/
def use (r : Reading) (flag : Flag) : Reading :=
  { r with used := r.used.filter (· != flag) ++ [flag] }

/-- One more, up to the greatest count. -/
def increment (n : UInt8) : UInt8 :=
  if n = 255 then 255 else n + 1

/-! ## Flags -/

/-- Takes the value of the language flag, which may be given once. -/
def setLanguage (r : Reading) (value : String) : Except Stop Reading :=
  if r.used.contains .lang then refuse (.repeated .lang)
  else
    match Language.parse value with
    | .ok language => .ok (use { r with options := { r.options with language } } .lang)
    | .error reason => refuse (.invalidValue value reason)

/-- Looks at the value that is still pending. -/
def settle (r : Reading) : Except Stop Reading :=
  match r.pending with
  | .nothing => .ok r
  | .awaiting => refuse .missingValue
  | .given value => setLanguage { r with pending := .nothing } value

/-- Takes a language flag with its value attached. -/
def attach (r : Reading) (value : String) : Except Stop Reading := do
  (← r.settle).setLanguage value

/-- Takes a flag without attached value. -/
def meet (r : Reading) (flag : Flag) : Except Stop Reading := do
  let r ← r.settle
  match flag with
  | .lang => return { r with pending := .awaiting }
  | .noBanner =>
    if r.options.noBanner then refuse (.repeated .noBanner)
    else return use { r with options := { r.options with noBanner := true } } .noBanner
  | .quiet =>
    return use { r with options := { r.options with quiet := increment r.options.quiet } } .quiet
  | .verbose =>
    return use { r with options := { r.options with verbose := increment r.options.verbose } }
      .verbose
  | .help => .error .help
  | .version => .error .version

/-! ## Arguments -/

/-- The flags in use, with a language whose value is met but not looked at. A second language
takes the first one away instead. -/
def usedWithPending (r : Reading) : List Flag :=
  match r.pending with
  | .given _ =>
    if r.used.contains .lang then r.used.filter (· != .lang) else r.used ++ [.lang]
  | _ => r.used

/-- Takes a long flag with its name and, after `=`, its value. -/
def long (r : Reading) (name : String) (value? : Option String) : Except Stop Reading :=
  match Flag.ofLong? name, value? with
  | none, _ => refuse (.unknownFlag name r.usedWithPending)
  | some flag, none => r.meet flag
  | some .lang, some value => r.attach value
  | some flag, some value => refuse (.unexpectedValue flag value r.used)

/-- Takes a cluster of short flags. The language flag takes what is left of the cluster as its
value, without the `=` in front. -/
def cluster (r : Reading) : List Char → Except Stop Reading
  | [] => .ok r
  | c :: rest =>
    match Flag.ofShort? c with
    | none => refuse (.unknownWord (String.ofList ['-', c]))
    | some .lang =>
      match rest with
      | [] => r.meet .lang
      | '=' :: value => r.attach (String.ofList value)
      | value => r.attach (String.ofList value)
    | some flag => do (← r.meet flag).cluster rest

/-- Takes a word: the value of a language flag that awaits one, or out of place. -/
def word (r : Reading) (text : String) : Except Stop Reading :=
  match r.pending with
  | .awaiting => .ok { r with pending := .given text }
  | _ => refuse (.unknownWord text)

/-- The name of a long flag and its value, split at the first `=`. -/
def splitValue (text : List Char) : String × Option String :=
  let name := String.ofList (text.takeWhile (· != '='))
  match text.dropWhile (· != '=') with
  | [] => (name, none)
  | _ :: value => (name, some (String.ofList value))

/-- Takes one argument. -/
def argument (r : Reading) (text : String) : Except Stop Reading :=
  if r.wordsOnly then refuse (.unknownWord text)
  else
    match text.toList with
    | ['-', '-'] => .ok { r with wordsOnly := true }
    | '-' :: '-' :: rest =>
      let (name, value?) := splitValue rest
      r.long name value?
    | ['-'] => r.word text
    | '-' :: flags => r.cluster flags
    | _ => r.word text

end Reading

/-- Reads all arguments. -/
def parse (arguments : List String) : Except Stop Options := do
  let r ← arguments.foldlM Reading.argument .start
  return (← r.settle).options

end Reckoner.CommandLine
