import Reckoner.ArithmeticError
import Reckoner.Language

/-!
# Phrases

The words of the walkthrough in each language.
-/

namespace Reckoner

/-- The words of the walkthrough. -/
structure Phrases where
  title : String
  errorLabel : String
  calculatorsCreated : String
  factorialOf : String
  divisionByZero : String
  negativeFactorial : String
  done : String
deriving DecidableEq, Repr

namespace Phrases

/-- English words. -/
def english : Phrases where
  title := "Calculator Example"
  errorLabel := "Error"
  calculatorsCreated := "Calculators created"
  factorialOf := "Factorial of"
  divisionByZero := "Division by zero is not allowed"
  negativeFactorial := "Factorial is not defined for negative numbers"
  done := "done"

/-- Portuguese words. -/
def portuguese : Phrases where
  title := "Exemplo de Calculadora"
  errorLabel := "Erro"
  calculatorsCreated := "Calculadoras criadas"
  factorialOf := "Fatorial de"
  divisionByZero := "Divisão por zero não é permitida"
  negativeFactorial := "Fatorial não é definido para números negativos"
  done := "concluído"

/-- The words of a language. -/
def ofLanguage : Language → Phrases
  | .english => english
  | .portuguese => portuguese

/-- An error in the words of a language. -/
def describe (phrases : Phrases) : ArithmeticError → String
  | .divisionByZero => phrases.divisionByZero
  | .negativeFactorial _ => phrases.negativeFactorial

end Phrases

end Reckoner
