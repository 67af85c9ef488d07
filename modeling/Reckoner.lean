import Reckoner.Main
import Reckoner.Session
import Reckoner.Proofs.Calculator.Memory
import Reckoner.Proofs.Bank.View
import Reckoner.Proofs.Event.Precedence
import Reckoner.Proofs.Session.Interleaving
import Reckoner.Proofs.Event.Printed
import Reckoner.Proofs.Page.Steps
import Reckoner.Proofs.CommandLine.Tally
import Reckoner.Proofs.Page.Colors
import Reckoner.Proofs.Program.Verbosity
import Reckoner.Proofs.Program.Escapes
import Reckoner.Proofs.Session.Observers
import Reckoner.Proofs.Event.Report
import Reckoner.Proofs.Session.Audit
import Reckoner.Proofs.Page.Body
import Reckoner.Proofs.Program.Endings
import Reckoner.Proofs.Factorial
import Reckoner.Proofs.Page.Looks
import Reckoner.Proofs.Frame.Titles
import Reckoner.Proofs.Language
import Reckoner.Proofs.Event.Routing
import Reckoner.Proofs.Frame.Banner
import Reckoner.Proofs.Guards
import Reckoner.Proofs.Event.Reading
