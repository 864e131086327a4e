import TextPattern.Main
import TextPattern.Predicate.Equality
import TextPattern.Proofs.Extent.Inside
import TextPattern.Proofs.WindowText
import TextPattern.Session
import TextPattern.Proofs.Extent.Adequacy
import TextPattern.Proofs.NormalForm
import TextPattern.Proofs.Built
import TextPattern.Proofs.Extent.Building
import TextPattern.Proofs.FaultFreedom
import TextPattern.Proofs.Locality
import TextPattern.Proofs.Dialect.Reads
import TextPattern.Proofs.Simplification
import TextPattern.Proofs.Dialect.ClassReading
import TextPattern.Proofs.Dialect.QuantifierReading
import TextPattern.Proofs.Dialect.ExprReading
import TextPattern.Proofs.Dialect.Acceptance
import TextPattern.Proofs.PredicateAlgebra
import TextPattern.Proofs.Dialect.Derivation
import TextPattern.Proofs.Dialect.GreedyMatching
import TextPattern.Proofs.Scanning
import TextPattern.Proofs.ScanReport
import TextPattern.Proofs.Dialect.CompiledNodes
import TextPattern.Proofs.Dialect.Fails
import TextPattern.Proofs.Dialect.ClassErrors
import TextPattern.Proofs.Dialect.QuantifierErrors
import TextPattern.Proofs.Dialect.ExprErrors
import TextPattern.Proofs.Dialect.SyntaxErrors
import TextPattern.Proofs.Extent.Repetition
import TextPattern.Proofs.Iterations
import TextPattern.Proofs.Equivalence
import TextPattern.Proofs.Dialect.ClassMeaning
import TextPattern.Proofs.Dialect.OpenGroups
import TextPattern.Proofs.Dialect.Limited
import TextPattern.Proofs.Dialect.Nesting
import TextPattern.Proofs.Dialect.NestingLimit
import TextPattern.Proofs.Extent.Operations
import TextPattern.Proofs.Extent.Conditions
import TextPattern.Proofs.SeveralOperands
import TextPattern.Proofs.Lookahead
import TextPattern.Proofs.Extent.Characters
import TextPattern.Proofs.Greediness
import TextPattern.Proofs.Comments
import TextPattern.Proofs.Extent.LongestPrefix
import TextPattern.Proofs.NumbersAndNames
import TextPattern.Proofs.QuotedTexts
import TextPattern.Proofs.Dialect.Quoting
import TextPattern.Proofs.Negations
import TextPattern.Proofs.Literals
import TextPattern.Proofs.LoopBounds
import TextPattern.Proofs.Descriptions
import TextPattern.Proofs.Dialect.Calls
import TextPattern.Proofs.Dialect.Progress
