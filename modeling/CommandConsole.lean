import CommandConsole.Inspection
import CommandConsole.Main
import CommandConsole.Proofs.Callable
import CommandConsole.Proofs.Concatenation
import CommandConsole.Proofs.Failures
import CommandConsole.Proofs.Refusals
import CommandConsole.Proofs.Rollback
import CommandConsole.Proofs.RoundTrip
import CommandConsole.Proofs.Slots
import CommandConsole.Proofs.Synonyms
import CommandConsole.Proofs.Typing
import CommandConsole.Proofs.Overflow
import CommandConsole.Proofs.Literals
import CommandConsole.Proofs.DecimalReading
import CommandConsole.Proofs.Precisions
import CommandConsole.Proofs.Calls
import CommandConsole.Proofs.Echoes
import CommandConsole.Proofs.Escapes
import CommandConsole.Proofs.ParameterLists
import CommandConsole.Proofs.ParserSettings
import CommandConsole.Proofs.CaseVariants
import CommandConsole.Proofs.HelpPages
import CommandConsole.Proofs.Overview
import CommandConsole.Proofs.Strictness
import CommandConsole.Proofs.Sums
import CommandConsole.Proofs.Adding
