-- The example queries that come with the program, in the groups that the user
-- sees them in.
import CommitQuery.Store.Bookmark

namespace CommitQuery.Bookmark

/-- An example query; its name is its description. -/
def sample (now : Timestamp) (tag query description : String) : Bookmark :=
  ⟨description, query, some description, [tag], now, none, true⟩

/-- Queries on commits, each with its description. -/
def commitSamples : List (String × String) :=
  [("Commits", "Get all commits"),
   ("Commits.Take(10)", "Get the first 10 commits"),
   ("Commits.Skip(5).Take(10)", "Pagination: skip 5, take 10"),
   ("Commits.First()", "Get the most recent commit"),
   ("Commits.Count()", "Count total commits"),
   ("Commits.Where(c => c.Message.Contains(\"fix\"))", "Find commits with 'fix' in message"),
   ("Commits.Where(c => c.AuthorName.Contains(\"Alice\"))", "Find commits by author"),
   ("Commits.Where(c => c.Message.StartsWith(\"feat\"))", "Find commits starting with 'feat'"),
   ("Commits.First(c => c.Message.Contains(\"bug\"))", "Find first commit mentioning 'bug'"),
   ("Commits.Any(c => c.Message.Contains(\"hotfix\"))", "Check if any hotfix commits exist"),
   ("Commits.Count(c => c.AuthorName.Contains(\"Bob\"))", "Count commits by Bob")]

/-- Queries on the files of diffs. -/
def diffSamples : List (String × String) :=
  [("Commits.Where(c => c.Diff.FilesChanged > 5)", "Commits that changed more than 5 files"),
   ("Commits.Where(c => c.Diff.TotalLinesAdded > 100)", "Commits with more than 100 lines added"),
   ("Commits.Where(c => c.Diff.Files.Any(f => f.Path.Contains(\".rs\")))",
     "Commits that modified Rust files"),
   ("Commits.First().Diff.Files", "Get files changed in the most recent commit"),
   ("Commits.Where(c => c.Diff.Files.Any(f => f.Status == \"Added\"))",
     "Commits that added new files")]

/-- Queries on the lines of diffs. -/
def contentSamples : List (String × String) :=
  [("Commits.Where(c => c.Diff.Files.Any(f => f.AddedContains(\"TODO\")))",
     "Find commits that added 'TODO'"),
   ("Commits.Where(c => c.Diff.Files.Any(f => f.DeletedContains(\"bug\")))",
     "Find commits that removed 'bug'"),
   ("Commits.Where(c => c.Diff.Files.Any(f => f.ContentContains(\"password\")))",
     "Find commits that touched 'password'"),
   ("Commits.First().Diff.Files.First().AddedContent",
     "View added lines in most recent file change")]

/-- The examples of a tag. -/
def samplesOf (now : Timestamp) (tag : String) (list : List (String × String)) : List Bookmark :=
  list.map fun (query, description) => sample now tag query description

/-- All examples. -/
def samples (now : Timestamp) : List Bookmark :=
  samplesOf now "commit" commitSamples ++ samplesOf now "diff" diffSamples ++
    samplesOf now "content" contentSamples

/-- The groups of examples in the order they are shown: a tag and a title each. -/
def groups : List (String × String) :=
  [("commit", "Commit Queries"), ("diff", "Diff Queries"), ("content", "Diff Content Queries")]

end CommitQuery.Bookmark
