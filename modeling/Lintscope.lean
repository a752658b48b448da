import Lintscope.Json.Parser
import Lintscope.Main
import Lintscope.Proofs.Diff.Patch
import Lintscope.Proofs.Order.Ascending
import Lintscope.Proofs.Text.Cut
import Lintscope.Proofs.Text.Numeral
import Lintscope.Proofs.Diff.Header
import Lintscope.Proofs.Diff.Reading
import Lintscope.Proofs.Diff.RoundTrip
import Lintscope.Proofs.Run.Calling
import Lintscope.Proofs.Run.Ending
import Lintscope.Proofs.Run.Verdict
import Lintscope.Proofs.Check.Remarks
import Lintscope.Proofs.Check.Whitespace
import Lintscope.Proofs.Check.Columns
import Lintscope.Proofs.Check.Header
import Lintscope.Proofs.Path
import Lintscope.Proofs.World
import Lintscope.Proofs.Git.Files
import Lintscope.Proofs.Git.Listing
import Lintscope.Proofs.Run.Narrowing
import Lintscope.Proofs.Json.EmptyList
import Lintscope.Proofs.Linter.Silence
import Lintscope.Proofs.Diff.Canonical
import Lintscope.Proofs.Diff.Index
import Lintscope.Proofs.Diff.Quoting
import Lintscope.Proofs.Diff.NamedPatch
import Lintscope.Proofs.Scope
import Lintscope.Proofs.Run.Accounting
import Lintscope.Proofs.Git.Names
import Lintscope.Proofs.Diff.Concat
import Lintscope.Proofs.Run.Fallback
import Lintscope.Proofs.Settings.Part
import Lintscope.Proofs.Run.Parts
import Lintscope.Proofs.Diff.Formatted
import Lintscope.Proofs.Linter.Formatters
import Lintscope.Proofs.Run.Reordering
import Lintscope.Proofs.Text.Utf8
import Lintscope.Proofs.Diff.IndexPaths
import Lintscope.Proofs.Diff.Counting
import Lintscope.Proofs.Diff.Plain
import Lintscope.Proofs.Glob.Shell
import Lintscope.Proofs.Glob.Reading
import Lintscope.Proofs.Glob.Tokens
import Lintscope.Proofs.Glob.Spelling
import Lintscope.Proofs.Glob.Stars
import Lintscope.Proofs.Glob.Checking
import Lintscope.Proofs.Glob.Cutting
import Lintscope.Proofs.Filter
import Lintscope.Proofs.Filter.Stars
import Lintscope.Proofs.Filter.Acceptance
import Lintscope.Proofs.Linter.Handover
import Lintscope.Proofs.Linter.Separation
import Lintscope.Proofs.Linter.Positions
import Lintscope.Proofs.Worklist
import Lintscope.Proofs.Output.Entry
import Lintscope.Proofs.Output.Location
import Lintscope.Proofs.Output.Category
import Lintscope.Proofs.Run.Launches
import Lintscope.Proofs.CommandLine
import Lintscope.Proofs.Yaml.Reading
import Lintscope.Proofs.Settings.Options
import Lintscope.Proofs.Settings.Items
import Lintscope.Proofs.Settings.Selection
import Lintscope.Proofs.Output.Code
import Lintscope.Proofs.Output.Level
import Lintscope.Proofs.Output.Pair
import Lintscope.Proofs.Output.Template
import Lintscope.Proofs.Message
import Lintscope.Proofs.Output.Normal
import Lintscope.Proofs.Linter.Normal
import Lintscope.Proofs.Filter.Display
import Lintscope.Proofs.Report.Text
import Lintscope.Proofs.Json.Scalar
import Lintscope.Proofs.Json.RoundTrip
import Lintscope.Proofs.Report.Json
import Lintscope.Proofs.Text.Tail
import Lintscope.Proofs.Path.Spelling
