import Reckoner.Event.Filter
import Reckoner.Text.Quoted
import Reckoner.Text.Style

/-!
# Console

The console writes the events that its filter admits, each as one line. An event of the print
target that carries a printed text is written as that text alone. Any other event is written as
the symbol of its level followed by its fields.

How the fields are put into words is a matter of its own, so that a line can be written with any
format of fields. The usual one shows them one after the other.

* `Event.printedText?` is the text of a printed event.
* `Field.forms` is the usual format of fields.
* `Console.lineBy` is the line of an event under a format of fields, `Console.line` the usual one.
* `Console.transcript` is everything written for a list of events.
-/

namespace Reckoner

open Text

/-! ## Printed text -/

namespace Event

/-- Takes note of a field while looking for a printed text: a text replaces what was found
before, any other value counts only if nothing was found. -/
def notePrinted (found : Option String) (field : Field) : Option String :=
  if field.name = printedField then
    match field.value with
    | .text content => some content
    | .shown form => some (found.getD form)
  else found

/-- The printed text of an event. Only the print target has one. -/
def printedText? (event : Event) : Option String :=
  if event.target = printTarget then event.fields.foldl notePrinted none else none

end Event

/-! ## Diagnostics -/

namespace Level

/-- The symbol of a level. -/
def symbol : Level → List Char
  | error => ['[', '-', ']']
  | warn => ['[', '*', ']']
  | info => ['[', '+', ']']
  | debug => ['[', '?', ']']
  | trace => ['[', ' ', ']']

/-- The style of a level's symbol. -/
def style : Level → Style
  | error => .bold .red
  | warn => .bold .yellow
  | info => .bold .green
  | debug => .colored .blue
  | trace => .dimmed

end Level

/-- The form of a value among other fields. -/
def Value.form : Value → List Char
  | text content => quote content.toList
  | shown form => form.toList

namespace Field

/-- Whether a name is that of a field that only tells where a record was taken over from. Such
fields are not written. -/
def isMetadata (name : String) : Bool :=
  "log.".toList.isPrefixOf name.toList

/-- The name of a field as it is shown, without the mark of a raw name. -/
def shownName (name : String) : List Char :=
  match name.toList with
  | 'r' :: '#' :: rest => rest
  | whole => whole

theorem mem_of_mem_shownName {c : Char} {name : String} (h : c ∈ shownName name) :
    c ∈ name.toList := by
  unfold shownName at h
  split at h
  · rename_i htext
    rw [htext]
    exact List.mem_cons_of_mem _ (List.mem_cons_of_mem _ h)
  · exact h

/-- The label of a field, `name=`. A styled label has its name in italics and its sign dimmed. -/
def label (styled : Bool) (name : String) : List Char :=
  if styled then
    sequence ['3'] ++ shownName name ++ reset ++ sequence ['2'] ++ ['='] ++ reset
  else shownName name ++ ['=']

/-- A field as it is written. The message has no label. -/
def form (styled : Bool) (field : Field) : List Char :=
  if field.name = Event.messageField then guard field.value.plain.toList
  else label styled field.name ++ field.value.form

/-- Fields as they are written, separated by blanks. -/
def forms (styled : Bool) (fields : List Field) : List Char :=
  List.intercalate [' '] ((fields.filter (!isMetadata ·.name)).map (·.form styled))

/-- Without metadata all fields are written. -/
theorem forms_of_unmarked {fields : List Field}
    (h : ∀ field ∈ fields, isMetadata field.name = false) (styled : Bool) :
    forms styled fields = List.intercalate [' '] (fields.map (·.form styled)) := by
  have hall : fields.filter (!isMetadata ·.name) = fields := by
    refine List.filter_eq_self.mpr fun field hfield => ?_
    rw [h field hfield]
    rfl
  rw [forms, hall]

end Field

/-- What is shown and how. -/
structure Console where
  filter : Filter
  /-- Whether symbols are painted. -/
  colors : Bool
  /-- Whether the labels of fields are styled. -/
  styledLabels : Bool

namespace Console

/-- The symbol of a level, painted or not. -/
def symbol (console : Console) (level : Level) : List Char :=
  level.style.paintIf console.colors level.symbol

/-- The line of an event under a format of fields. -/
def lineBy (format : List Field → List Char) (console : Console) (event : Event) : List Char :=
  match event.printedText? with
  | some text => text.toList ++ ['\n']
  | none => console.symbol event.level ++ ' ' :: (format event.fields ++ ['\n'])

/-- The line of an event. -/
def line (console : Console) : Event → List Char :=
  console.lineBy (Field.forms console.styledLabels)

theorem line_of_unprinted {event : Event} (h : event.printedText? = none) (console : Console) :
    console.line event = console.symbol event.level ++
      ' ' :: (Field.forms console.styledLabels event.fields ++ ['\n']) := by
  rw [line, lineBy, h]

/-- What is written for a list of events. -/
def written (console : Console) (events : List Event) : List Char :=
  (events.filter console.filter.admits).flatMap console.line

/-- What is written for a list of events, as a text. -/
def transcript (console : Console) (events : List Event) : String :=
  String.ofList (console.written events)

end Console

end Reckoner
