import GuardedAutomata.Main
import GuardedAutomata.Proofs.Automaton.Acceptance
import GuardedAutomata.Proofs.Automaton.Access
import GuardedAutomata.Proofs.Automaton.Alternation
import GuardedAutomata.Proofs.Automaton.Association
import GuardedAutomata.Proofs.Automaton.Characters
import GuardedAutomata.Proofs.Automaton.Concatenation
import GuardedAutomata.Proofs.Automaton.Expansion
import GuardedAutomata.Proofs.Automaton.Feeding
import GuardedAutomata.Proofs.Automaton.Legible
import GuardedAutomata.Proofs.Automaton.Repetition
import GuardedAutomata.Proofs.Automaton.RoundTrip
import GuardedAutomata.Proofs.Automaton.View
import GuardedAutomata.Proofs.CommandLine.Display
import GuardedAutomata.Proofs.CommandLine.Running
import GuardedAutomata.Proofs.Definition.Json
import GuardedAutomata.Proofs.Definition.Resolution
import GuardedAutomata.Proofs.Dot.Drawing
import GuardedAutomata.Proofs.Session.Addition
import GuardedAutomata.Proofs.Session.Enlargement
import GuardedAutomata.Proofs.Session.Frontier
import GuardedAutomata.Proofs.Session.Growth
import GuardedAutomata.Proofs.Session.Indifference
import GuardedAutomata.Proofs.Session.Marking
import GuardedAutomata.Proofs.Session.Refusal
import GuardedAutomata.Proofs.Session.Respelling
import GuardedAutomata.Proofs.Store.Scan
import GuardedAutomata.Proofs.Value.RangeForm
import GuardedAutomata.Proofs.Value.WrittenRange
import GuardedAutomata.Session.Basic
