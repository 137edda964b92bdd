import BranchPolicy.Expression.Clause
import BranchPolicy.Expression.Span
import BranchPolicy.Text.Search
import BranchPolicy.Character.DecimalDigit
import BranchPolicy.Character.Letter
import BranchPolicy.Character.Case.Lower
import BranchPolicy.Character.Case.Upper
import BranchPolicy.Branch.Case
import BranchPolicy.Branch.Measure
import BranchPolicy.Branch.Position
import BranchPolicy.Branch.Search
import BranchPolicy.Glob.RegularExpression
import BranchPolicy.Shape.Check
import BranchPolicy.Function.Documentation
import BranchPolicy.Function.Standard
import BranchPolicy.Evaluation
import BranchPolicy.Workflow.Inputs
import BranchPolicy.Workflow.Run
import BranchPolicy.Main
import BranchPolicy.Proofs.Text.QuoteState
import BranchPolicy.Proofs.Text.Pieces
import BranchPolicy.Proofs.Expression.Chain
import BranchPolicy.Proofs.Expression.Extraction
import BranchPolicy.Proofs.Resolution
import BranchPolicy.Proofs.Traversal
import BranchPolicy.Proofs.Evaluation.Reference
import BranchPolicy.Proofs.Function.Registry
import BranchPolicy.Proofs.Expression.Spread
import BranchPolicy.Proofs.Shape.ParenthesesAndQuotes
import BranchPolicy.Proofs.Shape.ConnectiveRuns
import BranchPolicy.Proofs.Shape.ListSeparation
import BranchPolicy.Proofs.Shape.Connectives
import BranchPolicy.Proofs.Shape.NegativeNumbers
import BranchPolicy.Proofs.Rejoining
import BranchPolicy.Proofs.Expression.Argument
import BranchPolicy.Proofs.Expression.Call
import BranchPolicy.Proofs.Expression.Printing
import BranchPolicy.Proofs.Soundness
import BranchPolicy.Proofs.Shape.PlainCalls
import BranchPolicy.Proofs.Layout
import BranchPolicy.Proofs.Completeness
import BranchPolicy.Proofs.Shape.Operands
import BranchPolicy.Proofs.Function.Standard
import BranchPolicy.Proofs.Reporting
import BranchPolicy.Proofs.CommandLine.Gate
import BranchPolicy.Proofs.Glob.Language
import BranchPolicy.Proofs.Glob.Matching
import BranchPolicy.Proofs.Text.Search
import BranchPolicy.Proofs.Branch.Search
import BranchPolicy.Proofs.Resolution.Unambiguous
import BranchPolicy.Proofs.Evaluation.Declarations
import BranchPolicy.Proofs.Evaluation.LineBreaks
import BranchPolicy.Proofs.Workflow.Stream
import BranchPolicy.Proofs.Workflow.Sequence
import BranchPolicy.Proofs.Expression.Tokenizer
import BranchPolicy.Proofs.Function.EmptyName
import BranchPolicy.Proofs.Evaluation.EmptyBranch
import BranchPolicy.Proofs.Workflow.Delivery
import BranchPolicy.Proofs.CommandLine.Agreement
import BranchPolicy.Proofs.Evaluation.Disjunction
import BranchPolicy.Proofs.Workflow.Sources
import BranchPolicy.Proofs.Shape.ListGaps
import BranchPolicy.Proofs.Expression.Span
import BranchPolicy.Proofs.Shape.QuotesInLists
import BranchPolicy.Proofs.Resolution.Matching
import BranchPolicy.Proofs.Resolution.Diagnosis
import BranchPolicy.Proofs.Shape.MinusSigns
import BranchPolicy.Proofs.Shape.SingleCall
import BranchPolicy.Proofs.Evaluation.FailingPredicate
import BranchPolicy.Proofs.Workflow.Explanation
import BranchPolicy.Proofs.Text.Lower
import BranchPolicy.Proofs.Workflow.Trimming
import BranchPolicy.Proofs.Evaluation.WrittenCall
import BranchPolicy.Proofs.Branch.Digits
import BranchPolicy.Proofs.Text.Packing
import BranchPolicy.Proofs.Function.Decision
import BranchPolicy.Proofs.Branch.Measure
import BranchPolicy.Proofs.Branch.Section
import BranchPolicy.Proofs.Branch.Order
import BranchPolicy.Proofs.Function.Grouping
import BranchPolicy.Proofs.Function.Defect
import BranchPolicy.Proofs.Function.Registration
import BranchPolicy.Proofs.Function.Documentation
import BranchPolicy.Proofs.CommandLine.Configuration
import BranchPolicy.Proofs.Evaluation.StringValues
import BranchPolicy.Proofs.Expression.Balance
import BranchPolicy.Proofs.Glob.Translation
import BranchPolicy.Proofs.Workflow.EmptyName
import BranchPolicy.Proofs.Function.Signature
import BranchPolicy.Proofs.Evaluation.TraceLine
