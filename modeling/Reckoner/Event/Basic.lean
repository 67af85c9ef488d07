import Reckoner.Decimal.Layout
import Reckoner.Trail

/-!
# Events

Everything the program has to say is an event: a level, a target that names the part that
speaks, and an ordered list of fields. Diagnostics of the arithmetic carry a message and their
operands; printed text is an event of the print target that carries the text in one field.

* `Event.diagnostic` builds a diagnostic, message first.
* `Event.print` builds a line of printed text.
* `Recorded` is a computation that leaves a trail of events.
-/

namespace Reckoner

/-- How important an event is. -/
inductive Level where
  | error
  | warn
  | info
  | debug
  | trace
deriving DecidableEq, Repr

namespace Level

/-- Chattiness of a level: the more detailed, the higher. -/
def detail : Level → Nat
  | error => 1
  | warn => 2
  | info => 3
  | debug => 4
  | trace => 5

end Level

/-- The value of a field. Texts are kept as they are and quoted when they are shown among other
fields; every other value is recorded as the text it is shown with. -/
inductive Value where
  | text (content : String)
  | shown (form : String)
deriving DecidableEq, Repr

namespace Value

/-- Integers are shown in decimal. -/
def ofInt (n : Int) : Value :=
  .shown (Decimal.writeInteger n)

/-- Numbers are shown in field layout. -/
def ofFloat (x : Float) : Value :=
  .shown (Decimal.Layout.field.write x)

/-- Truth values are shown by name. -/
def ofBool (b : Bool) : Value :=
  .shown (if b then "true" else "false")

/-- The content of a value, without quotes. -/
def plain : Value → String
  | text content => content
  | shown form => form

end Value

/-- A named value of an event. -/
structure Field where
  name : String
  value : Value
deriving DecidableEq, Repr

/-- One thing the program says. -/
structure Event where
  level : Level
  target : String
  fields : List Field
deriving DecidableEq, Repr

/-- A computation that leaves a trail of events. -/
abbrev Recorded (α : Type) := Trail Event α

namespace Event

/-- The name of the field that is shown without its name. -/
def messageField : String := "message"

/-- The name of the field that carries a printed text. -/
def printedField : String := "raw_msg"

/-- The target of printed text. -/
def printTarget : String := "abacus::print"

/-- A message field. -/
def message (text : String) : Field :=
  ⟨messageField, .shown text⟩

/-- An event with a message in front of its other fields. -/
def diagnostic (level : Level) (target text : String) (fields : List Field) : Event :=
  ⟨level, target, message text :: fields⟩

/-- A line of printed text. -/
def print (text : String) : Event :=
  ⟨.info, printTarget, [⟨printedField, .text text⟩]⟩

end Event

end Reckoner
