import QueryMacros.Main
import QueryMacros.Context.Shown
import QueryMacros.Session
import QueryMacros.Data.Json.Writer
import QueryMacros.Proofs.Macro.Rewriting
import QueryMacros.Proofs.Macro.Grammar
import QueryMacros.Proofs.Macro.ArgumentList
import QueryMacros.Proofs.Number.Written
import QueryMacros.Proofs.Builtin.Rewriting
import QueryMacros.Proofs.Builtin.Form
import QueryMacros.Proofs.Macro.Expansion
import QueryMacros.Proofs.Sql.Lexing
import QueryMacros.Proofs.Builtin.Condition
import QueryMacros.Proofs.Builtin.LiteralSafety
import QueryMacros.Proofs.Text.Trim
import QueryMacros.Proofs.Builtin.Growth
import QueryMacros.Proofs.Builtin.NamedValue
import QueryMacros.Proofs.Builtin.Passes
import QueryMacros.Proofs.Builtin.Opacity
import QueryMacros.Proofs.Template.Basic
import QueryMacros.Proofs.Builtin.FormShape
import QueryMacros.Proofs.Template.Sound
import QueryMacros.Proofs.Template.Preservation
import QueryMacros.Proofs.Template.Evaluation
import QueryMacros.Proofs.Metadata.Request
import QueryMacros.Proofs.Metadata.Run
import QueryMacros.Proofs.Metadata.Levels
import QueryMacros.Proofs.Builtin.AllowList
import QueryMacros.Proofs.Builtin.Boundaries
import QueryMacros.Proofs.Builtin.Dropped
import QueryMacros.Proofs.Macro.Stages
import QueryMacros.Proofs.Sql.Tables
import QueryMacros.Proofs.Builtin.OneTable
import QueryMacros.Proofs.Data.Forms
import QueryMacros.Proofs.Macro.DoubledQuotes
import QueryMacros.Proofs.Sql.QuotedArguments
import QueryMacros.Proofs.Macro.Places
import QueryMacros.Proofs.Macro.Tally
import QueryMacros.Proofs.Text.Slice
import QueryMacros.Proofs.Macro.InPlace
import QueryMacros.Proofs.Macro.InRange
import QueryMacros.Proofs.Builtin.Restarting
import QueryMacros.Proofs.Builtin.WholeNames
import QueryMacros.Proofs.Macro.Tiling
import QueryMacros.Proofs.Sql.Naming
import QueryMacros.Proofs.Builtin.Selection
import QueryMacros.Proofs.Settings.Pieces
import QueryMacros.Proofs.Settings.References
import QueryMacros.Proofs.Builtin.TimeFilters
import QueryMacros.Proofs.Metadata.Listing
import QueryMacros.Proofs.Macro.Raising
import QueryMacros.Proofs.Builtin.Attribution
import QueryMacros.Proofs.Number.Rounding
import QueryMacros.Proofs.Number.ShortestDecimal
import QueryMacros.Proofs.Number.Thousandths
import QueryMacros.Proofs.Number.ExactThousandths
import QueryMacros.Proofs.Builtin.BareCall
import QueryMacros.Proofs.Builtin.ExactSeconds
import QueryMacros.Proofs.Command.WrittenFilter
import QueryMacros.Proofs.Command.Precedence
import QueryMacros.Proofs.Context.Recognition
