import Reckoner.Event.Basic
import Reckoner.Walkthrough

/-!
# Page

The page is what the program prints: a banner, the title, the body with the lines of the
walkthrough and its diagnostics, a closing text and a footer. A quiet page has the bare title
and the body only.

Everything is said through events, so that the printed lines and the diagnostics between them
keep their order.

* `Page.body` is the sequence of events of the walkthrough.
* `Page.events` is the sequence of events of the whole page.
-/

namespace Reckoner

/-- What the user chose about the page. -/
structure Settings where
  language : Language
  noBanner : Bool
  /-- Every level above zero hides the frame and leaves the bare title. -/
  quiet : UInt8
deriving DecidableEq, Repr

/-- The settings of a user who chose nothing. -/
def Settings.default : Settings where
  language := .default
  noBanner := false
  quiet := 0

namespace Page

/-- A printed line of text. -/
def printed (text : List Char) : Event :=
  .print (String.ofList text)

/-- The banner, unless it is hidden. -/
def banner (colors : Bool) (noBanner : Bool) (quiet : UInt8) : List Event :=
  if noBanner || decide (0 < quiet) then [] else [printed (Frame.banner colors Frame.version)]

/-- A title in its frame, or bare when quiet. -/
def header (colors : Bool) (quiet : UInt8) (title : String) : List Event :=
  if 0 < quiet then [.print title] else [printed (Frame.header colors title)]

/-- A closing text in its frame, or nothing when quiet. -/
def closingHeader (colors : Bool) (quiet : UInt8) (title : String) : List Event :=
  if 0 < quiet then [] else header colors quiet title

/-- The rule at the end, or nothing when quiet. -/
def footer (colors : Bool) (quiet : UInt8) : List Event :=
  if 0 < quiet then [] else [printed (Frame.footer colors)]

/-- An entry as an event. -/
def eventOf (colors : Bool) (phrases : Phrases) : Walkthrough.Entry → Event
  | .diagnostic event => event
  | .line content => printed (content.form colors phrases)

/-- The events of the steps. -/
def body (colors : Bool) (language : Language) : Recorded (Except Walkthrough.Interruption Unit) :=
  let walk := (Walkthrough.steps language).run
  ⟨walk.result, walk.entries.map (eventOf colors (Phrases.ofLanguage language))⟩

/-- The events of the whole page. An interruption ends it. -/
def events (colors : Bool) (settings : Settings) :
    Recorded (Except Walkthrough.Interruption Unit) :=
  let phrases := Phrases.ofLanguage settings.language
  let quiet := settings.quiet
  let opening := banner colors settings.noBanner quiet ++ header colors quiet phrases.title
  let walk := body colors settings.language
  match walk.result with
  | .ok () =>
    ⟨.ok (), opening ++ walk.entries ++
      (closingHeader colors quiet phrases.done ++ footer colors quiet)⟩
  | .error interruption => ⟨.error interruption, opening ++ walk.entries⟩

end Page

end Reckoner
