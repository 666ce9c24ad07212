import OpticsCheck.Proofs.Report.Texts
import OpticsCheck.Proofs.Text.Lines
import OpticsCheck.Terminal.Results

/-!
# The layout of results

Without colours only the text of the results is left: a head and a branch for each detail of a case,
an empty line between two cases, and the summary. What a case found stands in it as it is, and all
the rest is plain text, so each of these is one line as long as no finding has a line break.
-/

namespace OpticsCheck

namespace Styled

variable (coloured : Bool)

@[simp] theorem render_plain (text : String) : (plain text).render coloured = text := by
  cases coloured <;> exact String.ofList_toList

@[simp] theorem render_append (first second : Styled) :
    (first ++ second).render coloured = first.render coloured ++ second.render coloured := by
  cases coloured <;> exact String.ofList_append

@[simp] theorem render_styled (style : Style) (inner : Styled) :
    (styled style inner).render false = inner.render false := rfl

@[simp] theorem render_text (style : Style) (shown : String) :
    (text style shown).render false = shown :=
  render_plain false shown

end Styled

namespace Line

/-- The line above the branches of a case. -/
def headText (index : Nat) (name : String) : String :=
  "[" ++ String.ofList (digitChars index) ++ "] " ++ name

/-- The keys that stand on branches. -/
def keys : List String := ["Result", "Time", "Skip", "Fatal", "Error"]

/-- What stands before the value on a branch: the key, filled up with dots. -/
def branchMark (last : Bool) (key : String) : String :=
  " " ++ (if last then "└─" else "├─") ++ " " ++ key ++ repeated (7 - key.utf8ByteSize) '.' ++ ": "

def branchText (last : Bool) (key value : String) : String := branchMark last key ++ value

def branchTexts : List (String × String) → List String
  | [] => []
  | (key, value) :: rest => branchText rest.isEmpty key value :: branchTexts rest

theorem render_treeHead (index : Nat) (name : String) :
    (treeHead index name).render false = headText index name := by
  simp [treeHead, headText, String.append_assoc]

theorem render_treeBranch (last : Bool) (key : String) (value : Styled) :
    (treeBranch last key value).render false = branchText last key (value.render false) := by
  simp [treeBranch, branchText, branchMark, String.append_assoc]

theorem render_tree (branches : List (String × Styled)) :
    (tree branches).map (Styled.render false) =
      branchTexts (branches.map fun branch => (branch.1, branch.2.render false)) := by
  fun_induction tree branches with
  | case1 => rfl
  | case2 key value =>
    rw [List.map_singleton, render_treeBranch]
    rfl
  | case3 key value rest more ih =>
    have others : rest.isEmpty = false := List.isEmpty_eq_false_iff.mpr more
    rw [List.map_cons, render_treeBranch, ih, List.map_cons, branchTexts, List.isEmpty_map, others]

theorem length_branchTexts (branches : List (String × String)) :
    (branchTexts branches).length = branches.length := by
  induction branches with
  | nil => rfl
  | cons branch rest ih => rw [branchTexts, List.length_cons, ih, List.length_cons]

end Line

namespace Results

def detailTexts (report : CaseReport) : List (String × String) :=
  [("Result", report.verdict.keyword), ("Time", seconds report.elapsed)]
  ++ (report.skipReason.map fun reason => ("Skip", reason)).toList
  ++ (report.fatal.map fun fatal => ("Fatal", fatal)).toList
  ++ report.errors.map fun message => ("Error", message)

/-- Each detail has one of the keys, and its value is the verdict, the time or one of the texts. -/
theorem of_mem_detailTexts {kind : String → Prop} {report : CaseReport} (all : report.AllTexts kind)
    (verdict : kind report.verdict.keyword) (time : kind (seconds report.elapsed)) :
    ∀ detail ∈ detailTexts report, detail.1 ∈ Line.keys ∧ kind detail.2 := by
  intro detail mem
  simp only [detailTexts, List.mem_append, List.mem_cons, List.not_mem_nil, or_false,
    Option.mem_toList, Option.map_eq_some_iff, List.mem_map] at mem
  rcases mem with
    (((rfl | rfl) | ⟨reason, skipped, rfl⟩) | ⟨fatal, ended, rfl⟩) | ⟨message, noted, rfl⟩
  · exact ⟨by simp [Line.keys], verdict⟩
  · exact ⟨by simp [Line.keys], time⟩
  · exact ⟨by simp [Line.keys], all.skipReason reason skipped⟩
  · exact ⟨by simp [Line.keys], all.fatal fatal ended⟩
  · exact ⟨by simp [Line.keys], all.errors message noted⟩

/-- The lines of one case: its head, then its verdict, its time, the reason to skip it, what aborted
it, and its errors. -/
def caseTexts (index : Nat) (report : CaseReport) : List String :=
  Line.headText index report.name :: Line.branchTexts (detailTexts report)

theorem length_caseTexts (index : Nat) (report : CaseReport) :
    (caseTexts index report).length =
      3 + report.skipReason.toList.length + report.fatal.toList.length + report.errors.length := by
  rw [caseTexts, List.length_cons, Line.length_branchTexts, detailTexts]
  cases report.skipReason <;> cases report.fatal <;> simp <;> omega

theorem render_details (report : CaseReport) :
    (details report).map (fun detail => (detail.1, detail.2.render false)) =
      detailTexts report := by
  unfold details detailTexts
  cases report.skipReason <;> cases report.fatal <;> simp

theorem render_caseTree (index : Nat) (report : CaseReport) :
    (caseTree index report).map (Styled.render false) = caseTexts index report := by
  rw [caseTree, List.map_cons, Line.render_treeHead, Line.render_tree, render_details]
  rfl

/-- The lines of each case, which are numbered from `index` on. -/
def treeTexts (index : Nat) (cases : List CaseReport) : List (List String) :=
  (cases.zipIdx index).map fun (report, index) => caseTexts index report

theorem treeTexts_cons (index : Nat) (report : CaseReport) (rest : List CaseReport) :
    treeTexts index (report :: rest) = caseTexts index report :: treeTexts (index + 1) rest := rfl

theorem render_trees (index : Nat) (cases : List CaseReport) :
    (trees index cases).map (Styled.render false) = [""].intercalate (treeTexts index cases) := by
  fun_induction trees index cases with
  | case1 => rfl
  | case2 index report =>
    rw [render_caseTree]
    exact List.intercalate_singleton.symm
  | case3 index report rest more ih =>
    obtain ⟨next, others, rfl⟩ := List.exists_cons_of_ne_nil more
    have gap : Styled.empty.render false = "" := Styled.render_plain false ""
    rw [List.map_append, List.map_cons, render_caseTree, ih, gap]
    simp only [treeTexts_cons, intercalate_cons, List.flatMap_cons]
    rfl

def countText (n : Nat) (what : String) : String := String.ofList (digitChars n) ++ " " ++ what

/-- The line that counts the verdicts. -/
def verdictsText (passed skipped broken : Nat) (total : Duration) : String :=
  "Checks Complete: " ++ countText passed "passed" ++ ", " ++ countText skipped "skipped" ++ ", "
    ++ countText broken "failed" ++ " in " ++ seconds total

theorem render_summaryText (suite : SuiteReport) (total : Duration) :
    (summaryText suite total).render false =
      verdictsText (suite.count .passed) (suite.count .skipped) suite.broken total := by
  simp only [summaryText, counted, Styled.render_styled, Styled.render_append, Styled.render_plain,
    Styled.render_text]
  rfl

/-- All lines that show the suite, as long as its trees are wanted. -/
theorem lines_of_trees (suite : SuiteReport) (total : Duration) {quiet : Nat} (trees : quiet < 2) :
    lines false suite total quiet =
      (Line.headerLines "optics results" quiet).map (Styled.render false)
        ++ [""].intercalate (treeTexts 0 suite.cases) ++ summary false suite total quiet := by
  rw [lines, if_pos trees, render_trees]

theorem length_summary (coloured : Bool) (suite : SuiteReport) (total : Duration) (quiet : Nat) :
    (summary coloured suite total quiet).length = 2 := by
  unfold summary
  split <;> rfl

end Results

/-! ### The kind of every line -/

open Text (Admits Unbroken)

theorem isPlain_digits (n : Nat) : Text.isPlain (String.ofList (digitChars n)) = true :=
  Text.isPlain_ofList_iff.mpr not_isControl_of_mem_digitChars

namespace Line

theorem isPlain_repeated (n : Nat) {c : Char} (visible : Text.isControl c = false) :
    Text.isPlain (repeated n c) = true :=
  Text.isPlain_ofList_iff.mpr fun _ mem => (List.mem_replicate.mp mem).2 ▸ visible

theorem isPlain_centred {text : String} (plain : Text.isPlain text = true) :
    Text.isPlain (centred text) = true := by
  have space : Text.isPlain (repeated ((totalWidth - shownWidth text) / 2) ' ') = true :=
    isPlain_repeated _ (by decide)
  simp only [centred, Text.isPlain_append, plain, space]
  decide

theorem isPlain_fatSeparator : Text.isPlain (fatSeparator.render false) = true := by
  rw [fatSeparator, Styled.render_text]
  exact isPlain_repeated _ (by decide)

theorem isPlain_header {title : String} (plain : Text.isPlain (Text.upper (framed title)) = true) :
    Text.isPlain ((header title).render false) = true := by
  have dashes (n : Nat) : Text.isPlain (repeated n '─') = true := isPlain_repeated _ (by decide)
  simp only [header, Styled.render_styled, Styled.render_append, Styled.render_plain,
    Styled.render_text, Text.isPlain_append, dashes, plain]
  rfl

theorem isPlain_of_mem_keys : ∀ key ∈ keys, Text.isPlain key = true := by
  decide +kernel

theorem isPlain_branchMark (last : Bool) {key : String} (known : key ∈ keys) :
    Text.isPlain (branchMark last key) = true := by
  have plain := isPlain_of_mem_keys key known
  have dots : Text.isPlain (repeated (7 - key.utf8ByteSize) '.') = true :=
    isPlain_repeated _ (by decide)
  simp only [branchMark, Text.isPlain_append, plain, dots]
  cases last <;> decide

variable {kind : String → Prop}

theorem kind_headText (admits : Admits kind) (index : Nat) {name : String} (own : kind name) :
    kind (headText index name) := by
  refine admits.append (admits.of_isPlain ?_) own
  simp only [Text.isPlain_append, isPlain_digits]
  decide

theorem kind_branchTexts (admits : Admits kind) {branches : List (String × String)}
    (each : ∀ branch ∈ branches, branch.1 ∈ keys ∧ kind branch.2) :
    ∀ line ∈ branchTexts branches, kind line := by
  induction branches with
  | nil => exact List.forall_mem_nil _
  | cons branch rest ih =>
    obtain ⟨⟨known, own⟩, others⟩ := List.forall_mem_cons.mp each
    have mark := admits.of_isPlain (isPlain_branchMark rest.isEmpty known)
    exact List.forall_mem_cons.mpr ⟨admits.append mark own, ih others⟩

end Line

theorem Verdict.isPlain_keyword (verdict : Verdict) : Text.isPlain verdict.keyword = true := by
  cases verdict <;> decide

namespace Results

theorem allNarrow_seconds (d : Duration) : Text.allNarrow (seconds d) = true := by
  have number : Text.allNarrow (d.seconds.fixedText 2) = true :=
    Text.allNarrow_ofList Binary64.isNarrow_of_mem_writeFixed
  rw [seconds, Text.allNarrow_append, number]
  decide

theorem allNarrow_countText (n : Nat) {what : String} (narrow : Text.allNarrow what = true) :
    Text.allNarrow (countText n what) = true := by
  simp only [countText, Text.allNarrow_append, narrow,
    Text.allNarrow_ofList isNarrow_of_mem_digitChars]
  decide

theorem allNarrow_verdictsText (passed skipped broken : Nat) (total : Duration) :
    Text.allNarrow (verdictsText passed skipped broken total) = true := by
  have passes := allNarrow_countText passed (by decide : Text.allNarrow "passed" = true)
  have skips := allNarrow_countText skipped (by decide : Text.allNarrow "skipped" = true)
  have fails := allNarrow_countText broken (by decide : Text.allNarrow "failed" = true)
  unfold verdictsText
  simp only [Text.allNarrow_append]
  rw [allNarrow_seconds, passes, skips, fails]
  decide

theorem allNarrow_summaryText (suite : SuiteReport) (total : Duration) :
    Text.allNarrow ((summaryText suite total).render false) = true := by
  rw [render_summaryText]
  exact allNarrow_verdictsText _ _ _ total

theorem isPlain_summary {suite : SuiteReport} {total : Duration} {quiet : Nat} :
    ∀ line ∈ summary false suite total quiet, Text.isPlain line = true := by
  have plain : Text.isPlain ((summaryText suite total).render false) = true :=
    Text.isPlain_of_allNarrow (allNarrow_summaryText suite total)
  unfold summary
  split
  · exact List.forall_mem_cons.mpr
      ⟨Line.isPlain_fatSeparator, List.forall_mem_singleton.mpr (Line.isPlain_centred plain)⟩
  · exact List.forall_mem_cons.mpr ⟨rfl, List.forall_mem_singleton.mpr plain⟩

theorem isPlain_header {quiet : Nat} :
    ∀ line ∈ (Line.headerLines "optics results" quiet).map (Styled.render false),
      Text.isPlain line = true := by
  unfold Line.headerLines
  split
  · exact List.forall_mem_nil _
  · refine List.forall_mem_singleton.mpr (Line.isPlain_header ?_)
    decide +kernel

variable {kind : String → Prop}

theorem kind_caseTexts (admits : Admits kind) (index : Nat) {report : CaseReport}
    (all : report.AllTexts kind) : ∀ line ∈ caseTexts index report, kind line := by
  refine List.forall_mem_cons.mpr ⟨Line.kind_headText admits index all.name, ?_⟩
  apply Line.kind_branchTexts admits
  apply of_mem_detailTexts all
  · exact admits.of_isPlain report.verdict.isPlain_keyword
  · exact admits.of_isPlain (Text.isPlain_of_allNarrow (allNarrow_seconds report.elapsed))

theorem kind_treeTexts (admits : Admits kind) {cases : List CaseReport}
    (each : ∀ report ∈ cases, report.AllTexts kind) (index : Nat) :
    ∀ line ∈ [""].intercalate (treeTexts index cases), kind line := by
  refine forall_mem_intercalate (admits.of_isPlain rfl) fun block mem => ?_
  obtain ⟨⟨report, number⟩, numbered, rfl⟩ := List.mem_map.mp mem
  exact kind_caseTexts admits number (each report (List.fst_mem_of_mem_zipIdx numbered))

/-- As long as no case tells of a text with a line break, each line that shows the suite is one. -/
theorem unbroken_lines {suite : SuiteReport}
    (unbroken : ∀ report ∈ suite.cases, report.AllTexts Unbroken) (total : Duration) {quiet : Nat}
    (trees : quiet < 2) : ∀ line ∈ lines false suite total quiet, Unbroken line := by
  rw [lines_of_trees suite total trees]
  refine List.forall_mem_append.mpr ⟨List.forall_mem_append.mpr ⟨?_, ?_⟩, ?_⟩
  · exact fun line mem => Text.unbroken_of_isPlain (isPlain_header line mem)
  · exact kind_treeTexts Text.admits_unbroken unbroken 0
  · exact fun line mem => Text.unbroken_of_isPlain (isPlain_summary line mem)

end Results
end OpticsCheck
