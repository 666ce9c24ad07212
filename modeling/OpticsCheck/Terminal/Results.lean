import OpticsCheck.Report
import OpticsCheck.Terminal.Line

/-!
# Results on the terminal

A suite is shown as one tree for each case and a summary of the verdicts. The first quiet level
drops the header and the decoration of the summary, the second the trees. The summary is shown
whatever the outcome; a suite in which a case failed or was aborted is a failure.
-/

namespace OpticsCheck.Results

def verdictStyle : Verdict → Style
  | .passed => { colour := .green, bold := true }
  | .skipped => { colour := .yellow, bold := true }
  | .failed => { colour := .red, bold := true }
  | .aborted => { colour := .brightRed, bold := true, underline := true }

def seconds (d : Duration) : String := d.seconds.fixedText 2 ++ "s"

/-- What a case's tree tells, in this order. -/
def details (report : CaseReport) : List (String × Styled) :=
  [("Result", .text (verdictStyle report.verdict) report.verdict.keyword),
    ("Time", .plain (seconds report.elapsed))]
  ++ (report.skipReason.map fun reason => ("Skip", .text { colour := .yellow } reason)).toList
  ++ (report.fatal.map fun fatal => ("Fatal", .text { colour := .red, bold := true } fatal)).toList
  ++ report.errors.map fun message => ("Error", .text { colour := .red } message)

def caseTree (index : Nat) (report : CaseReport) : List Styled :=
  Line.treeHead index report.name :: Line.tree (details report)

/-- The trees from `index` on, with an empty line between them. -/
def trees (index : Nat) : List CaseReport → List Styled
  | [] => []
  | [report] => caseTree index report
  | report :: rest => caseTree index report ++ .empty :: trees (index + 1) rest

def counted (n : Nat) (what : String) (colour : Colour) : Styled :=
  .text { colour, bold := true } (String.ofList (digitChars n) ++ " " ++ what)

def summaryText (suite : SuiteReport) (total : Duration) : Styled :=
  .styled Line.plainText
    (.plain "Checks Complete: " ++ counted (suite.count .passed) "passed" .green
      ++ .plain ", " ++ counted (suite.count .skipped) "skipped" .yellow
      ++ .plain ", " ++ counted suite.broken "failed" .red
      ++ .plain " in " ++ .text { colour := .yellow, bold := true } (seconds total))

def summary (coloured : Bool) (suite : SuiteReport) (total : Duration) (quiet : Nat) :
    List String :=
  let text := (summaryText suite total).render coloured
  if quiet = 0 then [Line.fatSeparator.render coloured, Line.centred text] else ["", text]

/-- All lines that show a suite. -/
def lines (coloured : Bool) (suite : SuiteReport) (total : Duration) (quiet : Nat) :
    List String :=
  (Line.headerLines "optics results" quiet).map (Styled.render coloured)
  ++ (if quiet < 2 then (trees 0 suite.cases).map (Styled.render coloured) else [])
  ++ summary coloured suite total quiet

/-- What is wrong with a suite that did not pass. -/
def failure? (suite : SuiteReport) : Option String :=
  if suite.passed then none
  else some (String.ofList (digitChars suite.broken) ++ " of "
    ++ String.ofList (digitChars suite.cases.length) ++ " checks did not pass")

end OpticsCheck.Results
