/-!
# Languages

The walkthrough is printed in English or in Portuguese. A language is asked for by its
two-letter code or its English name, with ASCII letters of either case.

* `Language.parse` reads a language and `Language.code` writes it.
-/

namespace Reckoner

/-- The language of printed text. -/
inductive Language where
  | english
  | portuguese
deriving DecidableEq, Repr

namespace Language

/-- The language used when none is asked for. -/
def default : Language := english

instance : Inhabited Language where
  default := .default

/-- The two-letter code of a language. -/
def code : Language → String
  | english => "en"
  | portuguese => "pt"

/-- The English name of a language. -/
def name : Language → String
  | english => "English"
  | portuguese => "Portuguese"

/-- Lowers the ASCII letters of a text and leaves every other character alone. -/
def lower (text : String) : String :=
  String.ofList (text.toList.map Char.toLower)

/-- Says that no language goes by a name, which is given in lower case. -/
def unsupported (lowered : String) : String :=
  "unsupported language '" ++ lowered ++ "', expected 'en' or 'pt'"

/-- The language that goes by a name in lower case. -/
def named? (lowered : String) : Option Language :=
  if lowered = "en" ∨ lowered = "english" then some english
  else if lowered = "pt" ∨ lowered = "portuguese" then some portuguese
  else none

/-- Reads a language, or says that it is not supported. -/
def parse (text : String) : Except String Language :=
  match named? (lower text) with
  | some language => .ok language
  | none => .error (unsupported (lower text))

/-- The code of a language is read as that language. -/
theorem parse_code (language : Language) : parse language.code = .ok language := by
  have h : named? (lower language.code) = some language := by
    cases language <;> decide
  simp [parse, h]

end Language

end Reckoner
