import Mathlib.Data.List.Basic
import OpticsCheck.Proofs.Terminal.Layout

/-!
# Reading results back

Everything that a case found can be read off the lines that show it, also where the findings look
like branches, heads or separators themselves: the marks of branches are as long as each other, the
last branch of a case is marked as such, and behind the last case there are always two lines.
-/

namespace OpticsCheck

/-- What is shown of a case apart from its time. -/
structure Findings where
  name : String
  verdict : Verdict
  skipReason : Option String
  fatal : Option String
  errors : List String
deriving DecidableEq, Repr

def CaseReport.findings (report : CaseReport) : Findings :=
  ⟨report.name, report.verdict, report.skipReason, report.fatal, report.errors⟩

theorem CaseReport.findings_eq {report other : CaseReport} (name : report.name = other.name)
    (skipReason : report.skipReason = other.skipReason) (fatal : report.fatal = other.fatal)
    (errors : report.errors = other.errors) : report.findings = other.findings := by
  simp only [findings, verdict, name, skipReason, fatal, errors]

namespace Line

theorem length_branchMark :
    ∀ last, ∀ key ∈ keys, (branchMark last key).toList.length = 13 := by
  decide +kernel

theorem branchMark_inj : ∀ last last', ∀ key ∈ keys, ∀ key' ∈ keys,
    branchMark last key = branchMark last' key' → last = last' ∧ key = key' := by
  decide +kernel

/-- A branch determines whether it is the last one, its key and its value. -/
theorem branchText_inj {last last' : Bool} {key key' value value' : String} (mem : key ∈ keys)
    (mem' : key' ∈ keys) (same : branchText last key value = branchText last' key' value') :
    last = last' ∧ key = key' ∧ value = value' := by
  have chars := congrArg String.toList same
  have lengths := (length_branchMark last key mem).trans (length_branchMark last' key' mem').symm
  simp only [branchText, String.toList_append] at chars
  obtain ⟨marks, values⟩ := List.append_inj chars lengths
  obtain ⟨rfl, rfl⟩ := branchMark_inj last last' key mem key' mem' (String.toList_inj.mp marks)
  exact ⟨rfl, rfl, String.toList_inj.mp values⟩

/-- Branches determine themselves and where they end, whatever comes behind. -/
theorem branchTexts_append_inj {branches others : List (String × String)} {rest rest' : List String}
    (known : ∀ branch ∈ branches, branch.1 ∈ keys) (known' : ∀ branch ∈ others, branch.1 ∈ keys)
    (some : branches ≠ []) (some' : others ≠ [])
    (same : branchTexts branches ++ rest = branchTexts others ++ rest') :
    branches = others ∧ rest = rest' := by
  induction branches generalizing others with
  | nil => exact absurd rfl some
  | cons branch branches ih =>
    obtain ⟨other, others, rfl⟩ := List.exists_cons_of_ne_nil some'
    rw [List.forall_mem_cons] at known known'
    simp only [branchTexts, List.cons_append, List.cons.injEq] at same
    obtain ⟨first, later⟩ := same
    obtain ⟨ends, key, value⟩ := branchText_inj known.1 known'.1 first
    obtain rfl : branch = other := Prod.ext key value
    cases branches with
    | nil =>
      obtain rfl : others = [] := List.isEmpty_iff.mp ends.symm
      exact ⟨rfl, later⟩
    | cons next more =>
      have goesOn : others ≠ [] := List.isEmpty_eq_false_iff.mp ends.symm
      obtain ⟨same, rest⟩ := ih known.2 known'.2 (List.cons_ne_nil next more) goesOn later
      exact ⟨congrArg (branch :: ·) same, rest⟩

theorem headText_inj {index : Nat} {name name' : String}
    (same : headText index name = headText index name') : name = name' :=
  (String.append_right_inj _).mp same

end Line

namespace Results

variable {report other : CaseReport}

theorem key_mem_keys : ∀ detail ∈ detailTexts report, detail.1 ∈ Line.keys := by
  have any : report.AllTexts fun _ => True := ⟨trivial, fun _ _ => trivial, fun _ _ => trivial,
    fun _ _ => trivial⟩
  exact fun detail mem => (of_mem_detailTexts any trivial trivial detail mem).1

theorem detailTexts_ne_nil : detailTexts report ≠ [] := by simp [detailTexts]

/-- The values on the branches with that key. -/
def values (key : String) (details : List (String × String)) : List String :=
  details.filterMap fun detail => if detail.1 = key then some detail.2 else none

theorem values_skip : values "Skip" (detailTexts report) = report.skipReason.toList := by
  unfold values detailTexts
  cases report.skipReason <;> cases report.fatal <;> simp

theorem values_fatal : values "Fatal" (detailTexts report) = report.fatal.toList := by
  unfold values detailTexts
  cases report.skipReason <;> cases report.fatal <;> simp

theorem values_error : values "Error" (detailTexts report) = report.errors := by
  unfold values detailTexts
  cases report.skipReason <;> cases report.fatal <;> simp

theorem findings_eq_of_detailTexts (name : report.name = other.name)
    (same : detailTexts report = detailTexts other) : report.findings = other.findings := by
  have skipReason := congrArg (fun details => (values "Skip" details).head?) same
  have fatal := congrArg (fun details => (values "Fatal" details).head?) same
  have errors := congrArg (values "Error") same
  simp only [values_skip, Option.head?_toList] at skipReason
  simp only [values_fatal, Option.head?_toList] at fatal
  simp only [values_error] at errors
  exact CaseReport.findings_eq name skipReason fatal errors

/-- The lines of a case determine what it found and where they end, whatever comes behind. -/
theorem caseTexts_append_inj {index : Nat} {rest rest' : List String}
    (same : caseTexts index report ++ rest = caseTexts index other ++ rest') :
    report.findings = other.findings ∧ rest = rest' := by
  simp only [caseTexts, List.cons_append, List.cons.injEq] at same
  obtain ⟨head, branches⟩ := same
  obtain ⟨details, behind⟩ := Line.branchTexts_append_inj key_mem_keys key_mem_keys
    detailTexts_ne_nil detailTexts_ne_nil branches
  exact ⟨findings_eq_of_detailTexts (Line.headText_inj head) details, behind⟩

/-- Of cases behind another one, each follows an empty line. -/
theorem findings_eq_of_later {index : Nat} {cases cases' : List CaseReport}
    (same : (treeTexts index cases).flatMap ("" :: ·) =
      (treeTexts index cases').flatMap ("" :: ·)) :
    cases.map CaseReport.findings = cases'.map CaseReport.findings := by
  induction cases generalizing index cases' with
  | nil =>
    cases cases' with
    | nil => rfl
    | cons report' rest' => cases same
  | cons report rest ih =>
    cases cases' with
    | nil => cases same
    | cons report' rest' =>
      simp only [treeTexts_cons, List.flatMap_cons, List.cons_append, List.cons.injEq,
        true_and] at same
      obtain ⟨first, later⟩ := caseTexts_append_inj same
      rw [List.map_cons, List.map_cons, first, ih later]

theorem findings_eq_of_treeTexts {index : Nat} {cases cases' : List CaseReport}
    (same : [""].intercalate (treeTexts index cases) = [""].intercalate (treeTexts index cases')) :
    cases.map CaseReport.findings = cases'.map CaseReport.findings := by
  cases cases with
  | nil =>
    cases cases' with
    | nil => rfl
    | cons report' rest' =>
      rw [treeTexts_cons, intercalate_cons] at same
      cases same
  | cons report rest =>
    cases cases' with
    | nil =>
      rw [treeTexts_cons, intercalate_cons] at same
      cases same
    | cons report' rest' =>
      rw [treeTexts_cons, treeTexts_cons, intercalate_cons, intercalate_cons] at same
      obtain ⟨first, later⟩ := caseTexts_append_inj same
      rw [List.map_cons, List.map_cons, first, findings_eq_of_later later]

/-- Two suites that are shown by the same text came to the same, case by case. Their times may
differ, and whatever they found may be any text without a line break. -/
theorem findings_eq_of_printed {suite suite' : SuiteReport} {total total' : Duration} {quiet : Nat}
    (unbroken : ∀ report ∈ suite.cases, report.AllTexts Text.Unbroken)
    (unbroken' : ∀ report ∈ suite'.cases, report.AllTexts Text.Unbroken) (trees : quiet < 2)
    (same : Text.printed (lines false suite total quiet) =
      Text.printed (lines false suite' total' quiet)) :
    suite.cases.map CaseReport.findings = suite'.cases.map CaseReport.findings := by
  have lines := Text.printed_injective (unbroken_lines unbroken total trees)
    (unbroken_lines unbroken' total' trees) same
  rw [lines_of_trees suite total trees, lines_of_trees suite' total' trees] at lines
  have summaries := (length_summary false suite total quiet).trans
    (length_summary false suite' total' quiet).symm
  have shown := (List.append_inj' lines summaries).1
  exact findings_eq_of_treeTexts (List.append_cancel_left shown)

/-- A suite with findings that look like the lines around them. -/
def lookalikes (entries : List Entry) (elapsed : Duration) : SuiteReport :=
  let messages := [.error " └─ Error..: late", .error "", .error "Checks Complete: 2 passed"]
  ⟨[{ name := "[1] ════", entries := entries ++ messages, skipReason := some "", elapsed },
    { name := "", fatal := some " ├─ Result.: PASS", elapsed }]⟩

/-- Log lines are not shown, and times are shown in hundredths of a second only. -/
theorem findings_eq_of_printed_lookalikes :
    let suite := lookalikes [] ⟨0⟩
    let suite' := lookalikes [.log "[-] late", .log ""] ⟨1000⟩
    (∀ report ∈ suite.cases, report.AllTexts Text.Unbroken) ∧
    (∀ report ∈ suite'.cases, report.AllTexts Text.Unbroken) ∧
    Text.printed (lines false suite ⟨0⟩ 1) = Text.printed (lines false suite' ⟨2000⟩ 1) ∧
    suite.cases.map CaseReport.findings = suite'.cases.map CaseReport.findings := by
  intro suite suite'
  have unbroken : ∀ report ∈ suite.cases, report.AllTexts Text.Unbroken := by decide +kernel
  have unbroken' : ∀ report ∈ suite'.cases, report.AllTexts Text.Unbroken := by decide +kernel
  have same :
      Text.printed (lines false suite ⟨0⟩ 1) = Text.printed (lines false suite' ⟨2000⟩ 1) := by
    decide +kernel
  exact ⟨unbroken, unbroken', same, findings_eq_of_printed unbroken unbroken' (by decide) same⟩

end Results
end OpticsCheck
