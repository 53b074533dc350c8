import FluentQuery.CommandLine.Parser
import FluentQuery.CommandLine.Run
import FluentQuery.Main
import FluentQuery.Node.Build
import FluentQuery.Program
import FluentQuery.Proofs.Evaluate
import FluentQuery.Proofs.Lineage
import FluentQuery.Proofs.Node
import FluentQuery.Proofs.Pattern
import FluentQuery.Proofs.Pipeline
import FluentQuery.Proofs.ReadChain
import FluentQuery.Proofs.Shapes
import FluentQuery.Proofs.Standard
import FluentQuery.Proofs.Verdict
import FluentQuery.Proofs.ComparatorForms
import FluentQuery.Proofs.ComparatorDirection
import FluentQuery.Proofs.Writes
import FluentQuery.Proofs.Position
import FluentQuery.Proofs.Survey
import FluentQuery.Proofs.Reassign
import FluentQuery.Proofs.Plain
import FluentQuery.Proofs.WriteMeaning
import FluentQuery.Proofs.Alike
import FluentQuery.Proofs.Respects
import FluentQuery.Proofs.RecognizeAlike
import FluentQuery.Proofs.Conservative
import FluentQuery.Proofs.Grounded
import FluentQuery.Proofs.Declaration
import FluentQuery.Proofs.Growth
import FluentQuery.Proofs.OrdinaryCode
import FluentQuery.Proofs.Edit
import FluentQuery.Proofs.Coincide
import FluentQuery.Proofs.Tracing
import FluentQuery.Proofs.Commands
import FluentQuery.Proofs.Congruence
import FluentQuery.Proofs.Merge
import FluentQuery.Proofs.Alignment
import FluentQuery.Proofs.Captures
import FluentQuery.Proofs.Naming
import FluentQuery.Proofs.Conjunction
import FluentQuery.Proofs.ComparatorGrammar
import FluentQuery.Proofs.Limit
import FluentQuery.Proofs.Unambiguous
import FluentQuery.Proofs.Projection
import FluentQuery.Proofs.Spelling
import FluentQuery.Proofs.Decode
import FluentQuery.Proofs.Simulation
import FluentQuery.Proofs.CallbackForms
import FluentQuery.Proofs.Fragments
import FluentQuery.Proofs.Targets
import FluentQuery.Proofs.Accessors
