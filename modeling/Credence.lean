import Credence.Analysis.Analyzer
import Credence.Analysis.Token
import Credence.Analysis.Tweet
import Credence.Classifier
import Credence.Classifier.Forest
import Credence.Classifier.Growth
import Credence.Classifier.Kind
import Credence.Classifier.Logistic
import Credence.Classifier.Nearest
import Credence.Classifier.Tree
import Credence.CommandLine.Draft
import Credence.CommandLine.Execute
import Credence.CommandLine.Options
import Credence.CommandLine.Parse
import Credence.CommandLine.Scan
import Credence.Error
import Credence.Features
import Credence.Json
import Credence.Json.Fields
import Credence.Json.Numeral
import Credence.Json.Reader
import Credence.Json.Writer
import Credence.Labels
import Credence.Main
import Credence.Metrics
import Credence.Number.Binary64
import Credence.Number.Decimal
import Credence.Number.Notation
import Credence.Pipeline
import Credence.Pipeline.Run
import Credence.Pipeline.Training
import Credence.Proofs.Classifier
import Credence.Proofs.Classifier.Contract
import Credence.Proofs.Growth
import Credence.Proofs.Growth.Leaves
import Credence.Proofs.Metrics
import Credence.Proofs.Metrics.Symmetry
import Credence.Proofs.Pipeline.Actions
import Credence.Proofs.Pipeline.Failures
import Credence.Proofs.Pipeline.History
import Credence.Proofs.Pipeline.Relabelling
import Credence.Proofs.Pipeline.Rollback
import Credence.Proofs.Pipeline.Scoring
import Credence.Proofs.Pipeline.Unseen
import Credence.Proofs.Random.Shuffle
import Credence.Proofs.Records
import Credence.Proofs.Registry.Isolation
import Credence.Proofs.Split
import Credence.Proofs.Training
import Credence.Proofs.Traversal
import Credence.Proofs.Vectorizer
import Credence.Random.ChaCha
import Credence.Random.Words
import Credence.Record
import Credence.Registry
import Credence.Registry.Run
import Credence.Registry.SessionId
import Credence.Report.Json
import Credence.Report.Output
import Credence.Report.Text
import Credence.Report.Timestamp
import Credence.Settings
import Credence.Settings.Json
import Credence.Split
import Credence.Text.CaseTable
import Credence.Text.CharClass
import Credence.Text.DigitTable
import Credence.Text.Hex
import Credence.Text.Lowercase
import Credence.Text.Pattern
import Credence.Text.Pattern.Reader
import Credence.Text.Ranges
import Credence.Text.WordTable
import Credence.Vectorizer
import Credence.Vectorizer.Vocabulary
import Credence.Proofs.Number.Order
import Credence.Proofs.Growth.Candidates
import Credence.Proofs.Growth.Thresholds
import Credence.Proofs.Growth.Gain
import Credence.Proofs.CommandLine.Agreement
import Credence.Proofs.Number.Rounding
import Credence.Proofs.Number.Arithmetic
import Credence.Proofs.Number.Midpoint
import Credence.Proofs.Vectorizer.Census
import Credence.Proofs.Number.Count
import Credence.Proofs.Split.Partition
import Credence.Proofs.Vectorizer.Fit
import Credence.Proofs.Vectorizer.Transform
import Credence.Proofs.Growth.Permutation
import Credence.Classifier.Guarded
import Credence.Proofs.Growth.Guarded
import Credence.Proofs.Growth.Choice
import Credence.Proofs.Growth.Recount
import Credence.Proofs.Classifier.Safety
import Credence.Proofs.Text.Matching
import Credence.Proofs.Analysis.Tokens
import Credence.Proofs.Analysis.Tweet
import Credence.Proofs.Analysis.Marks
import Credence.Proofs.Analysis.Stability
import Credence.Proofs.Number.NoNumber
import Credence.Proofs.Classifier.Nearest
import Credence.Proofs.Classifier.SingleTree
import Credence.Proofs.Metrics.Fractions
import Credence.Proofs.Classifier.Descent
import Credence.Proofs.Json.Members
import Credence.Proofs.Settings.Overlay
import Credence.Proofs.Number.Accuracy
import Credence.Proofs.Number.Range
import Credence.Proofs.Number.Levels
import Credence.Proofs.Split.Shares
