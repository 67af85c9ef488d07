import Reckoner.Decimal.Layout
import Reckoner.Frame
import Reckoner.Phrases

/-!
# Lines of the walkthrough

A line shows an expression with its value, a label with its value, or an expression with the
reason why it has none. Expressions and labels are white, separators bright black, values bright
cyan and reasons bold red.

* `Line.form` is the text of a line.
-/

namespace Reckoner

open Text

/-- A line of the walkthrough. -/
inductive Line where
  /-- `expression = value` -/
  | result (expression value : String)
  /-- `label: value` -/
  | labeled (label value : String)
  /-- `expression = error label: reason` -/
  | failure (expression reason : String)
  | blank
deriving DecidableEq, Repr

namespace Line

/-- The colour of expressions and labels. -/
def leadStyle : Style := .colored .white

/-- The colour of values. -/
def valueStyle : Style := .colored .brightCyan

/-- The colour of reasons. -/
def reasonStyle : Style := .bold .red

/-- The text of a line. -/
def form (colors : Bool) (phrases : Phrases) : Line → List Char
  | result expression value =>
    leadStyle.paintIf colors expression.toList ++ ' ' ::
      (Frame.ruleStyle.paintIf colors ['='] ++ ' ' :: valueStyle.paintIf colors value.toList)
  | labeled label value =>
    leadStyle.paintIf colors label.toList ++
      (Frame.ruleStyle.paintIf colors [':'] ++ ' ' :: valueStyle.paintIf colors value.toList)
  | failure expression reason =>
    leadStyle.paintIf colors expression.toList ++ ' ' ::
      (Frame.ruleStyle.paintIf colors ['='] ++ ' ' ::
        reasonStyle.paintIf colors (phrases.errorLabel.toList ++ ':' :: ' ' :: reason.toList))
  | blank => []

/-- The line of an operation: its result, or why it was refused. -/
def ofOutcome (phrases : Phrases) (expression : String) : Except ArithmeticError Float → Line
  | .ok value => result expression (Decimal.Layout.plain.write value)
  | .error cause => failure expression (phrases.describe cause)

end Line

end Reckoner
