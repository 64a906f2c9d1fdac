import ViewLayout.CommandLine
import ViewLayout.Host.Walk
import ViewLayout.Main
import ViewLayout.Proofs.Builder.Fill
import ViewLayout.Proofs.Builder.Gaps
import ViewLayout.Proofs.Builder.Grounded
import ViewLayout.Proofs.Builder.InStep
import ViewLayout.Proofs.Builder.Removal
import ViewLayout.Proofs.Chain.Choice
import ViewLayout.Proofs.Chain.Grammar
import ViewLayout.Proofs.Chain.Requirements
import ViewLayout.Proofs.Constraint.Attribution
import ViewLayout.Proofs.Constraint.ChainReadBack
import ViewLayout.Proofs.Constraint.Filling
import ViewLayout.Proofs.Constraint.Mentions
import ViewLayout.Proofs.Constraint.ReadBack
import ViewLayout.Proofs.Constraint.Scale
import ViewLayout.Proofs.Constraint.Spacing
import ViewLayout.Proofs.Constraint.Spans
import ViewLayout.Proofs.Document.Format
import ViewLayout.Proofs.Document.Keys
import ViewLayout.Proofs.Document.Priorities
import ViewLayout.Proofs.Equation.Choice
import ViewLayout.Proofs.Equation.Grammar
import ViewLayout.Proofs.Equation.Lowering
import ViewLayout.Proofs.Host.Conflicts
import ViewLayout.Proofs.Host.Forest
import ViewLayout.Proofs.Host.Layout
import ViewLayout.Proofs.Host.Liveness
import ViewLayout.Proofs.Host.TreeRuns
import ViewLayout.Proofs.Registry.History
import ViewLayout.Proofs.Registry.Suggestions
import ViewLayout.Proofs.Sequence.Closing
import ViewLayout.Proofs.Sequence.Duality
import ViewLayout.Proofs.Sequence.Metrics
import ViewLayout.Proofs.Sequence.Modes
import ViewLayout.Proofs.Sequence.Progress
import ViewLayout.Proofs.Sequence.Stack
