import CommitQuery.Commit.Log
import CommitQuery.Json.Reader
import CommitQuery.Main
import CommitQuery.Plan.Evaluate
import CommitQuery.Plan.Explain
import CommitQuery.Prompt.Completion
import CommitQuery.Prompt.Session
import CommitQuery.Proofs.Commit.Log
import CommitQuery.Proofs.Commit.Occurrences
import CommitQuery.Proofs.Commit.Patch
import CommitQuery.Proofs.Commit.Paths
import CommitQuery.Proofs.Commit.Sections
import CommitQuery.Proofs.Commit.Texts
import CommitQuery.Proofs.Plan.Caseless
import CommitQuery.Proofs.Plan.Explain
import CommitQuery.Proofs.Plan.Nameless
import CommitQuery.Proofs.Plan.Operators
import CommitQuery.Proofs.Plan.Overloads
import CommitQuery.Proofs.Plan.Progress
import CommitQuery.Proofs.Plan.Slices
import CommitQuery.Proofs.Plan.Sorting
import CommitQuery.Proofs.Plan.Stack
import CommitQuery.Proofs.Plan.Total
import CommitQuery.Proofs.Prompt.Arguments
import CommitQuery.Proofs.Prompt.Commands
import CommitQuery.Proofs.Prompt.Hints
import CommitQuery.Proofs.Prompt.Parameters
import CommitQuery.Proofs.Prompt.Restart
import CommitQuery.Proofs.Query.Caret
import CommitQuery.Proofs.Query.Errors
import CommitQuery.Proofs.Query.RoundTrip
import CommitQuery.Proofs.Result.Cells
import CommitQuery.Proofs.Result.Columns
import CommitQuery.Proofs.Result.Csv
import CommitQuery.Proofs.Screen.Color
import CommitQuery.Proofs.Screen.Counts
import CommitQuery.Proofs.Screen.Grid
import CommitQuery.Proofs.Screen.Highlight
import CommitQuery.Proofs.Screen.Matches
import CommitQuery.Proofs.Screen.Painted
import CommitQuery.Proofs.Screen.Unstyled
import CommitQuery.Proofs.Store.Limits
import CommitQuery.Proofs.Store.Names
import CommitQuery.Proofs.Value.Comparison
import CommitQuery.Result.Csv
import CommitQuery.Result.Structured
import CommitQuery.Screen.Render
import CommitQuery.Store.Settings
