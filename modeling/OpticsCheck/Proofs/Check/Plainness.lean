import OpticsCheck.Proofs.Check.Logging
import OpticsCheck.Proofs.Terminal.Layout

/-!
# No forged lines

A topology and a configuration can hold any names. Where a check tells of them it quotes them, so no
text that is shown of a case has a control in it, and a name cannot pass for lines of its own. The
results are exactly the lines that they are made of.
-/

namespace OpticsCheck

/-- No text of a case has a control in it. -/
def CaseReport.Plain (report : CaseReport) : Prop :=
  report.AllTexts fun text => Text.isPlain text = true

theorem Note.Orderly.finds {skips : Bool} {notes : List Note} (orderly : Orderly skips notes) :
    ∀ note ∈ notes, note.Finds fun text => Text.isPlain text = true := by
  induction orderly with
  | done => exact List.forall_mem_nil _
  | log message _ ih => exact List.forall_mem_cons.mpr ⟨trivial, ih⟩
  | error plain _ ih => exact List.forall_mem_cons.mpr ⟨plain, ih⟩
  | skip _ plain => exact List.forall_mem_singleton.mpr plain

theorem Procedure.Tells.plain_report {σ : Type} {skips : Bool} {p : Procedure σ Unit}
    (tells : Tells skips p) {name : String} (plainName : Text.isPlain name = true) (clock : Nat)
    (state : σ) : (p.report name clock state).value.Plain := by
  obtain ⟨⟨notes, orderly, noted, -⟩, plain⟩ := tells { name } clock state
  have told : CaseReport.Plain (CaseReport.recordAll { name } notes) :=
    (CaseReport.AllTexts.of_name plainName).recordAll orderly.finds
  rcases ended : (p.exec { name } clock state).value with ⟨fault | _, report⟩
  all_goals
    rw [ended] at noted plain
    obtain rfl : report = CaseReport.recordAll { name } notes := noted
  · rw [report_of_error ended]
    have finds : (Note.abort fault).Finds fun text => Text.isPlain text = true := plain fault rfl
    exact told.record finds
  · rw [report_of_ok ended]
    exact told

section Checks

variable {σ : Type} {dut : Device σ} (hushed : dut.Hushed) (config : PowerUpdate.Config)
  (clock : Nat) (state : σ)
include hushed

theorem Inventory.plain_check : (check dut clock state).value.Plain :=
  (tells_procedure hushed).plain_report (by decide) clock state

theorem PowerUpdate.plain_check {cases : List Case}
    (plain : ∀ c ∈ cases, Text.isPlain c.description = true) :
    ∀ report ∈ (check dut config cases clock state).value.cases, report.Plain := by
  intro report mem
  cases found : dut.port config.port with
  | error fault =>
    have aborted : Procedure.Tells false (throw fault : Procedure σ Unit) :=
      .throw (hushed.port config.port fault found)
    rw [check_of_no_port dut config found, List.mem_singleton] at mem
    subst mem
    exact aborted.plain_report (by decide : Text.isPlain caseName = true) clock state
  | ok interface =>
    rw [check_of_port found] at mem
    obtain ⟨c, listed, clock', state', rfl⟩ := Run.exists_of_mem_value_mapM _ _ _ _ mem
    exact (tells_procedure hushed config interface c).plain_report
      (isPlain_reportName (plain c listed)) clock' state'

theorem plain_runAll : ∀ report ∈ (runAll dut config clock state).value.cases, report.Plain := by
  rw [(runAll_apply dut config clock state).1, List.forall_mem_cons]
  refine ⟨Inventory.plain_check hushed clock state, ?_⟩
  exact PowerUpdate.plain_check hushed config _ _ PowerUpdate.Case.isPlain_defaults

end Checks

/-- Whatever names the topology, the state of its device and the configuration hold, no text that is
shown of a case of all checks has a control in it. So the text that shows the suite parts into these
lines: a header unless the output is quiet, the lines of each case with an empty one between two
cases, and two lines of summary; the line behind the last line break is empty. -/
theorem runAll_shows (t : Topology) (config : PowerUpdate.Config) (clock : Nat)
    (interfaces : Interfaces) (total : Duration) {quiet : Nat} (trees : quiet < 2) :
    let suite := (runAll t.device config clock interfaces).value
    let header := (Line.headerLines "optics results" quiet).map (Styled.render false)
    let summary := Results.summary false suite total quiet
    (∀ report ∈ suite.cases, report.AllTexts fun text => Text.isPlain text = true) ∧
    Text.lines (Text.printed (Results.lines false suite total quiet)) =
      header ++ [""].intercalate (Results.treeTexts 0 suite.cases) ++ summary ++ [""] ∧
    header.length = (if quiet = 0 then 1 else 0) ∧
    (∀ index, ∀ report ∈ suite.cases, (Results.caseTexts index report).length =
      3 + report.skipReason.toList.length + report.fatal.toList.length + report.errors.length) ∧
    summary.length = 2 := by
  intro suite header summary
  have plain : ∀ report ∈ suite.cases, report.AllTexts fun text => Text.isPlain text = true :=
    plain_runAll t.hushed_device config clock interfaces
  have unbroken : ∀ report ∈ suite.cases, report.AllTexts Text.Unbroken :=
    fun report mem => (plain report mem).mono Text.unbroken_of_isPlain
  refine ⟨plain, ?_, ?_, ?_, ?_⟩
  · rw [Text.lines_printed (Results.unbroken_lines unbroken total trees),
      Results.lines_of_trees suite total trees]
  · rw [List.length_map, Line.headerLines]
    by_cases loud : quiet = 0
    · rw [if_neg (by omega), if_pos loud]
      rfl
    · rw [if_pos (by omega), if_neg loud]
      rfl
  · exact fun index report _ => Results.length_caseTexts index report
  · exact Results.length_summary false suite total quiet

/-- A topology with line breaks and an erasing sequence in its names. -/
def forgedTopology : Topology :=
  { name := "dut\n[9] forged", model := "m\n └─ Result.: PASS\u0085\x1b[2J", vendor := .cisco }

/-- Both cases are aborted, and the faults name the model and the port between quotes. -/
theorem runAll_shows_of_forgedTopology :
    let config : PowerUpdate.Config := { port := "port1\n\nChecks Complete: 2 passed" }
    let suite := (runAll forgedTopology.device config 0 forgedTopology.boot).value
    1 < 2 ∧
    Text.lines (Text.printed (Results.lines false suite ⟨0⟩ 1)) =
      ["[0] optics power and bias current",
        " ├─ Result.: ABORT",
        " ├─ Time...: 0.00s",
        " └─ Fatal..: get transceiver list for " ++
          "\"m\\n └─ Result.: PASS\\u\x7b85\x7d\\u\x7b1b\x7d[2J\": got 0, want > 0",
        "",
        "[1] optics power update",
        " ├─ Result.: ABORT",
        " ├─ Time...: 0.00s",
        " └─ Fatal..: port \"port1\\n\\nChecks Complete: 2 passed\" is not part of the topology",
        "",
        "Checks Complete: 0 passed, 0 skipped, 2 failed in 0.00s",
        ""] := by
  intro config suite
  refine ⟨by decide, ?_⟩
  rw [(runAll_shows forgedTopology config 0 forgedTopology.boot ⟨0⟩ (by decide)).2.1]
  decide +kernel

end OpticsCheck
