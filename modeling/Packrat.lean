import Packrat.Config
import Packrat.Factory.Ready
import Packrat.Grammar.Build
import Packrat.Grammar.Parts
import Packrat.Grammar.Rendered
import Packrat.Matcher.Condition
import Packrat.Matcher.Evaluate
import Packrat.Matcher.Meaning
import Packrat.Parse
import Packrat.Proofs.AncestorChains
import Packrat.Proofs.Appending
import Packrat.Proofs.Attachments
import Packrat.Proofs.Backtraces
import Packrat.Proofs.CharacterRuns
import Packrat.Proofs.Confinement
import Packrat.Proofs.DelimitedLists
import Packrat.Proofs.Identities
import Packrat.Proofs.InStep
import Packrat.Proofs.KeyComparison
import Packrat.Proofs.Likeness
import Packrat.Proofs.MatchTransparency
import Packrat.Proofs.NestedSpans
import Packrat.Proofs.RedundantParts
import Packrat.Proofs.Relabelling
import Packrat.Proofs.SingleEvaluation
import Packrat.Proofs.SingleProduction
import Packrat.Proofs.SpelledOut
import Packrat.Proofs.SubWindows
import Packrat.Proofs.Termination
import Packrat.Proofs.TokenLists
import Packrat.Proofs.Unwinding
import Packrat.Proofs.Verbatim
import Packrat.Proofs.WholeTexts
import Packrat.Proofs.WriteOnce
import Packrat.Sharing
import Packrat.Traversal.Enumeration
import Packrat.Traversal.Search
