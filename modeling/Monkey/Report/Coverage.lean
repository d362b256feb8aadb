import Monkey.Report.Json.Ops
import Monkey.Report.Step

/-!
# The coverage table

The first part of a measurement report: a line per measured file, least covered first (of two
files equally covered, the one with more statements first, and otherwise in the document's
order), then the totals.

A file's line gives its name, its statements and the statements missed, each read as an
integer, the share covered, read as a double and shown in whole percent, and the first twelve
missed lines, with `…` when there are more. The name of an absolute path is the path from the
repository's directory to it, once `.`, empty parts and `..` are resolved (see `repoName`);
another path is its own name. The name column is as wide as the longest name, at most sixty
characters, a longer name being cut there; without files it is four wide. The totals give the
statements, those not covered and the share covered.

Two files are equally covered when their shares are equal, or when both are the one
not-a-number that a document's `NaN` stands for; a not-a-number read from a text is a new one
each time, equal to none.

Every file's values are read before the table is written, so a file whose values cannot be
read stops the round with nothing written. The missed lines are written as they come, so a
file whose missed lines cannot be listed stops the round within the table.
-/

namespace Monkey

namespace Report

/-- The repository's directory, under the root. -/
def repoDir : String := "repo"

/-- The parts of an absolute path, with `.` and empty parts dropped and each `..` taking back
the part before it, if any. -/
def pathParts (path : String) : List String :=
  (path.splitOn "/").foldl (fun acc part =>
    if part.isEmpty || part == "." then acc
    else if part == ".." then acc.dropLast
    else acc ++ [part]) []

/-- The name of a file in the table: for an absolute path, the path from the repository's
directory to it, `.` for the directory itself; another path as it is. -/
def repoName (path : String) : String :=
  if path.startsWith "/" then
    match pathParts path with
    | first :: rest =>
      if first == repoDir then (if rest.isEmpty then "." else "/".intercalate rest)
      else "/".intercalate (".." :: first :: rest)
    | [] => ".."
  else path

/-- The widest the name column gets. -/
def nameWidthLimit : Nat := 60

/-- How much of one file the coverage runner saw run, as the table shows it. -/
structure FileRow where
  name : String
  statements : Int
  missed : Int
  percent : Float
  /-- whether the share is the document's own not-a-number -/
  sharedNaN : Bool
  missingLines : Json

namespace FileRow

/-- The line of a file from its path and its entry in the coverage document; a missing or false
summary or list of missed lines counts as empty. -/
def of (path : String) (entry : Json) : Except Raised FileRow := do
  let summary := (← entry.getOr "summary" .null).orEmpty
  let statements ← (← summary.getOr "num_statements" (.int 0)).toInt
  let missed ← (← summary.getOr "missing_lines" (.int 0)).toInt
  let share ← summary.getOr "percent_covered" (.int 0)
  let percent ← share.toFloat
  let missingLines := (← entry.getOr "missing_lines" .null).orElse (.arr [])
  pure { name := repoName path, statements, missed, percent, sharedNaN := share.isNaN,
         missingLines }

/-- The order of the table: by share covered, then by statements, more first. Two shares that
are both the document's not-a-number count as equal. -/
def before (a b : FileRow) : Bool :=
  if a.percent == b.percent || (a.sharedNaN && b.sharedNaN) then
    b.statements < a.statements
  else a.percent < b.percent

/-- The missed lines as the table shows them: the first twelve, separated by commas, and `…`
when there are more. -/
def missingText (f : FileRow) : Except Raised String := do
  let shown ← (← f.missingLines.front 12).iter
  let count ← f.missingLines.length
  pure (",".intercalate (shown.map Json.text) ++ (if count > 12 then "…" else ""))

/-- The line of a file in a table whose name column has the given width. -/
def row (width : Nat) (f : FileRow) (missing : String) : String :=
  Text.padRight (String.ofList (f.name.toList.take width)) width ++ "  " ++
    Text.padLeft (toString f.statements) 5 ++ "  " ++ Text.padLeft (toString f.missed) 4 ++
    "  " ++ Text.padLeft (Decimal.fixed f.percent 0) 4 ++ "%  " ++ missing

end FileRow

/-- The totals of a coverage document: the share covered, the lines covered and the
statements. -/
structure Totals where
  percent : Float
  covered : Int
  statements : Int

/-- The totals of a coverage document, each read as a number; a missing or false `totals`
counts as empty. -/
def Totals.of (doc : Json) : Except Raised Totals := do
  let t := (← doc.getOr "totals" .null).orEmpty
  let percent ← (← t.getOr "percent_covered" (.int 0)).toFloat
  let covered ← (← t.getOr "covered_lines" (.int 0)).toInt
  let statements ← (← t.getOr "num_statements" (.int 0)).toInt
  pure ⟨percent, covered, statements⟩

/-- Writes the coverage table of a coverage document with its totals, and a blank line. -/
def coverageTable (doc : Json) (t : Totals) : Step Unit := do
  let entries ← Step.lift ((← Step.lift (doc.getOr "files" .null)).orEmpty.pairs)
  let rows ← Step.lift (entries.mapM fun (p, e) => FileRow.of p e)
  let rows := Id.run (hostSort (fun a b => pure (FileRow.before a b)) rows)
  let width := match rows with
    | [] => 4
    | r :: rest => min nameWidthLimit (rest.foldl (fun w f => max w f.name.length) r.name.length)
  let rule := String.ofList (List.replicate (width + 42) '-')
  Step.say (Text.padRight "Name" width ++ "  Stmts  Miss  Cover  Missing")
  Step.say rule
  rows.forM fun f => do Step.say (f.row width (← Step.lift f.missingText))
  Step.say rule
  Step.say (Text.padRight "TOTAL" width ++ "  " ++ Text.padLeft (toString t.statements) 5 ++
    "  " ++ Text.padLeft (toString (t.statements - t.covered)) 4 ++ "  " ++
    Text.padLeft (Decimal.fixed t.percent 0) 4 ++ "%")
  Step.say ""

end Report

end Monkey
