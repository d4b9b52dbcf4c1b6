import RecordExpr.Stored
import RecordExpr.Json.Reader
import RecordExpr.Json.Writer
import RecordExpr.Record.Router
import RecordExpr.Record.Updater
import RecordExpr.Record.Aggregate
import RecordExpr.Record.Cache
import RecordExpr.Prepared.Validation
import RecordExpr.Proofs.Expr.Nodes
import RecordExpr.Proofs.Outcome
import RecordExpr.Proofs.Eval.Kind
import RecordExpr.Proofs.Eval.Agreement
import RecordExpr.Proofs.Eval.Inputs
import RecordExpr.Proofs.Date.Writable
import RecordExpr.Proofs.Eval.Failure
import RecordExpr.Proofs.Validation.Issues
import RecordExpr.Proofs.Validation.Kinds
import RecordExpr.Proofs.Validation.Formats
import RecordExpr.Proofs.Validation.Patterns
import RecordExpr.Proofs.Eval.Misfit
import RecordExpr.Proofs.Eval.Absence
import RecordExpr.Proofs.Eval.NullPolicy
import RecordExpr.Proofs.Record.CacheHistory
import RecordExpr.Proofs.Record.UpdaterRun
import RecordExpr.Proofs.Record.Strategies
import RecordExpr.Proofs.Record.RouterRules
import RecordExpr.Proofs.Record.CacheContents
import RecordExpr.Proofs.Record.Admission
import RecordExpr.Proofs.Regex.Spans
import RecordExpr.Proofs.Regex.TokensInside
import RecordExpr.Proofs.Regex.Anchored
import RecordExpr.Proofs.Record.UpdaterEffect
import RecordExpr.Proofs.Record.UpdaterAtOnce
import RecordExpr.Proofs.Date.PartsGiven
import RecordExpr.Proofs.Date.Midnight
import RecordExpr.Proofs.Date.Interchange
import RecordExpr.Proofs.Eval.Spine
import RecordExpr.Proofs.Eval.DateArithmetic
import RecordExpr.Proofs.Record.UpdaterVariables
import RecordExpr.Proofs.Eval.EpochMillis
import RecordExpr.Proofs.Eval.WholeArithmetic
import RecordExpr.Proofs.Decimal.Nearest
import RecordExpr.Proofs.Decimal.ReadBack
import RecordExpr.Proofs.Decimal.Truncation
import RecordExpr.Proofs.Eval.Alike
import RecordExpr.Proofs.Eval.Substitution
import RecordExpr.Proofs.Record.AggregateFold
import RecordExpr.Proofs.Eval.Connectives
import RecordExpr.Proofs.Eval.Concat
import RecordExpr.Proofs.Text.WholeNumber
import RecordExpr.Proofs.Stored.Results
import RecordExpr.Proofs.Eval.Substring
import RecordExpr.Proofs.Eval.Comparison
import RecordExpr.Proofs.Expr.Paths
import RecordExpr.Proofs.Validation.Paths
import RecordExpr.Proofs.Prepared.Same
import RecordExpr.Proofs.Validation.Composition
