import OpticsCheck.Proofs.Check.Inventory
import OpticsCheck.Proofs.Run.Recounting

/-!
# The visits of an inventory

An inventory visits the transceivers that it has found, one after the other. A visit asks for the
manufacturer's name and, where there is one, for the three lists of samples in turn. The first
question that is not answered ends the visit and the whole inventory, which keeps what it has noted
until then. So the report and the calls of an inventory, whatever the device answers, are determined
by its visits.
-/

namespace OpticsCheck

/-- The leaves that a visit reads up to this one. -/
def Leaf.upTo : Leaf → List Leaf
  | .inputPower => [.inputPower]
  | .outputPower => [.inputPower, .outputPower]
  | .biasCurrent => [.inputPower, .outputPower, .biasCurrent]

namespace Procedure

variable {σ α β : Type}

theorem of_run_bind (first : ExceptT Fault (Run σ) α) (next : α → ExceptT Fault (Run σ) β) :
    of (first >>= next).run = of first.run >>= fun value => of (next value).run := by
  have same (report : CaseReport) : (of (first >>= next).run).exec report =
      (of first.run >>= fun value => of (next value).run).exec report := by
    simp only [exec_bind, exec_of, ExceptT.run_bind, bind_assoc, pure_bind]
    refine congrArg (first.run >>= ·) (funext fun result => ?_)
    cases result <;> rfl
  exact funext same

/-- The three lists are read one after the other. -/
theorem of_runReadings (dut : Device σ) (component : String) :
    of (dut.runReadings component) =
      of (dut.runSamples .inputPower component) >>= fun inputPowers =>
        of (dut.runSamples .outputPower component) >>= fun outputPowers =>
          of (dut.runSamples .biasCurrent component) >>= fun biasCurrents =>
            pure { inputPowers, outputPowers, biasCurrents } := by
  simp only [Device.runReadings, of_run_bind]
  rfl

end Procedure

namespace Inventory

variable {σ : Type}

/-- What an inventory notes of a transceiver: its manufacturer's name and its readings, if it has a
name. -/
def validateNotes (transceiver : String) : Option (String × Readings) → List Note
  | none => [.log ("Validate transceiver: " ++ transceiver),
      .log ("MfgName for " ++ Text.quoted transceiver ++ " is not present, skip it")]
  | some (mfgName, readings) =>
    [.log ("Validate transceiver: " ++ transceiver),
      .log ("Transceiver " ++ transceiver ++ " MfgName: " ++ mfgName)] ++
    Leaf.all.map (fun leaf => .log (readingLine transceiver readings leaf)) ++
    readings.emptyLeaves.map fun leaf => .error (emptyLine transceiver leaf)

theorem entries_validateNotes (transceiver : String) (found : Option (String × Readings)) :
    ∀ note ∈ validateNotes transceiver found, note.entry?.isSome = true := by
  rcases found with _ | ⟨mfgName, readings⟩ <;> intro note mem
  · simp only [validateNotes, List.mem_cons, List.not_mem_nil, or_false] at mem
    rcases mem with rfl | rfl <;> rfl
  · simp only [validateNotes, List.cons_append, List.nil_append, List.mem_cons, List.mem_append,
      List.mem_map] at mem
    rcases mem with rfl | rfl | ⟨_, _, rfl⟩ | ⟨_, _, rfl⟩ <;> rfl

theorem errors_validateNotes (transceiver mfgName : String) (readings : Readings) :
    (validateNotes transceiver (some (mfgName, readings))).filterMap Note.errorMessage? =
      readings.emptyLeaves.map (emptyLine transceiver) := by
  rw [validateNotes, List.filterMap_append, List.filterMap_append, Note.errorMessages_logs,
    Note.errorMessages_errors]
  rfl

/-- What comes of the visit to a transceiver. -/
inductive Visit where
  | unknown (fault : Fault)
  | cage
  | unread (mfgName : String) (leaf : Leaf) (fault : Fault)
  | read (mfgName : String) (readings : Readings)
deriving DecidableEq, Repr

/-- Stops at the fault, if there is one. -/
def stopAt : Option Fault → Except Fault Unit
  | some fault => .error fault
  | none => .ok ()

theorem stopAt_eq_error_iff {fault? : Option Fault} {fault : Fault} :
    stopAt fault? = .error fault ↔ fault? = some fault := by
  cases fault? <;> simp [stopAt]

theorem stopAt_eq_ok_iff {fault? : Option Fault} : stopAt fault? = .ok () ↔ fault? = none := by
  cases fault? <;> simp [stopAt]

namespace Visit

/-- The fault that ended the visit. -/
def fault? : Visit → Option Fault
  | unknown fault => some fault
  | cage => none
  | unread _ _ fault => some fault
  | read _ _ => none

/-- Nothing is missing unless all three lists were read. -/
def emptyLeaves : Visit → List Leaf
  | unknown _ | cage | unread .. => []
  | read _ readings => readings.emptyLeaves

def calls (transceiver : String) : Visit → List Call
  | unknown _ | cage => [.mfgName transceiver]
  | unread _ leaf _ => .mfgName transceiver :: leaf.upTo.map (.samples · transceiver)
  | read _ _ => .mfgName transceiver :: Leaf.all.map (.samples · transceiver)

def notes (transceiver : String) : Visit → List Note
  | unknown _ => [.log ("Validate transceiver: " ++ transceiver)]
  | cage => validateNotes transceiver none
  | unread mfgName _ _ => [.log ("Validate transceiver: " ++ transceiver),
      .log ("Transceiver " ++ transceiver ++ " MfgName: " ++ mfgName)]
  | read mfgName readings => validateNotes transceiver (some (mfgName, readings))

def entries (transceiver : String) (found : Visit) : List Entry :=
  (found.notes transceiver).filterMap Note.entry?

theorem entries_notes (transceiver : String) (found : Visit) :
    ∀ note ∈ found.notes transceiver, note.entry?.isSome = true := by
  cases found with
  | unknown fault => simp [notes, Note.entry?]
  | cage => exact entries_validateNotes transceiver none
  | unread mfgName leaf fault => simp [notes, Note.entry?]
  | read mfgName readings => exact entries_validateNotes transceiver (some (mfgName, readings))

theorem errors_notes (transceiver : String) (found : Visit) :
    (found.notes transceiver).filterMap Note.errorMessage? =
      found.emptyLeaves.map (emptyLine transceiver) := by
  cases found with
  | unknown fault => rfl
  | cage => rfl
  | unread mfgName leaf fault => rfl
  | read mfgName readings => exact errors_validateNotes transceiver mfgName readings

end Visit

def visit (dut : Device σ) (transceiver : String) : Run σ Visit :=
  (dut.runMfgName transceiver).proceed .unknown fun
    | none => pure .cage
    | some mfgName =>
      (dut.runSamples .inputPower transceiver).proceed (.unread mfgName .inputPower)
        fun inputPowers =>
      (dut.runSamples .outputPower transceiver).proceed (.unread mfgName .outputPower)
        fun outputPowers =>
      (dut.runSamples .biasCurrent transceiver).proceed (.unread mfgName .biasCurrent)
        fun biasCurrents => pure (.read mfgName { inputPowers, outputPowers, biasCurrents })

theorem recounts_validate (dut : Device σ) (transceiver : String) (report : CaseReport) :
    (validate dut transceiver).Recounts report (visit dut transceiver) fun found =>
      (stopAt found.fault?, report.recordAll (found.notes transceiver)) := by
  refine .note_bind (.of_bind (fun _ => rfl) fun found => ?_)
  cases found with
  | none => exact .note rfl
  | some mfgName =>
    refine .note_bind ?_
    simp only [Procedure.of_runReadings, bind_assoc, pure_bind]
    refine .of_bind (fun _ => rfl) fun inputPowers => ?_
    refine .of_bind (fun _ => rfl) fun outputPowers => ?_
    refine .of_bind (fun _ => rfl) fun biasCurrents => ?_
    refine .forM_bind (fun _ => rfl) (.forM (fun _ => rfl) ?_)
    simp only [Visit.notes, validateNotes, CaseReport.recordAll_append]
    rfl

/-- On the simulated device a visit changes nothing. -/
theorem visit_idle (t : Topology) (transceiver : String) (clock : Nat) (interfaces : Interfaces) :
    (visit t.device transceiver clock interfaces).state = interfaces := by
  have kept := (idle_validate t transceiver { name := caseName } clock interfaces).2
  exact (recounts_validate t.device transceiver { name := caseName } clock
    interfaces).state.symm.trans kept

/-- Visits one transceiver after the other, up to the first visit that fails. -/
def survey (dut : Device σ) : List String → Run σ (List (String × Visit))
  | [] => pure []
  | transceiver :: others => do
    let found ← visit dut transceiver
    match found.fault? with
    | some _ => return [(transceiver, found)]
    | none => ((transceiver, found) :: ·) <$> survey dut others

theorem value_survey_of_served {dut : Device σ} {name : String} (names : List String)
    {clock : Nat} {state : σ} (served : (visit dut name clock state).value.fault? = none) :
    let visited := visit dut name clock state
    (survey dut (name :: names) clock state).value =
      (name, visited.value) :: (survey dut names visited.clock visited.state).value := by
  simp [survey, served]

/-- The visits of a survey: in the order of the names, and all of them unless the last one failed. -/
structure Surveyed (names : List String) (visits : List (String × Visit)) : Prop where
  inOrder : visits.map (·.1) <+: names
  onlyLastFails : ∀ visit ∈ visits.dropLast, visit.2.fault? = none
  complete : visits.findSome? (·.2.fault?) = none → visits.map (·.1) = names

namespace Surveyed

variable {name : String} {names : List String} {found : Visit} {visits : List (String × Visit)}

theorem nothing : Surveyed [] [] :=
  ⟨List.prefix_refl [], fun _ mem => absurd mem List.not_mem_nil, fun _ => rfl⟩

theorem stopped {fault : Fault} (failed : found.fault? = some fault) :
    Surveyed (name :: names) [(name, found)] := by
  refine ⟨⟨names, rfl⟩, fun _ mem => absurd mem List.not_mem_nil, fun none => ?_⟩
  simp [failed] at none

theorem goesOn (served : found.fault? = none) (rest : Surveyed names visits) :
    Surveyed (name :: names) ((name, found) :: visits) := by
  obtain ⟨inOrder, onlyLastFails, complete⟩ := rest
  refine ⟨(List.prefix_cons_inj name).mpr inOrder, ?_, fun none => ?_⟩
  · cases visits with
    | nil => exact fun _ mem => absurd mem List.not_mem_nil
    | cons next others => exact List.forall_mem_cons.mpr ⟨served, onlyLastFails⟩
  · rw [List.findSome?_cons] at none
    simp only [served] at none
    rw [List.map_cons, complete none]

end Surveyed

theorem recounts_survey (dut : Device σ) (names : List String) (report : CaseReport) :
    (names.forM (validate dut)).Recounts report (survey dut names) fun visits =>
      (stopAt (visits.findSome? (·.2.fault?)), report.recordAll
        (visits.flatMap fun (name, found) => found.notes name)) := by
  -- the report carries what the visits before this one have noted
  induction names generalizing report with
  | nil => exact .pure rfl
  | cons name names ih =>
    refine .bind (recounts_validate dut name report) ?_ ?_
    · rintro found fault _ same
      obtain ⟨stopped, rfl⟩ := Prod.mk.inj same
      have failed : found.fault? = some fault := stopAt_eq_error_iff.mp stopped
      refine ⟨[(name, found)], ?_, ?_⟩
      · simp only [failed]
      · simp [failed, stopAt]
    · rintro found ⟨⟩ _ same
      obtain ⟨went, rfl⟩ := Prod.mk.inj same
      have served : found.fault? = none := stopAt_eq_ok_iff.mp went
      simp only [served]
      refine .map ?_
      have rest := ih (report.recordAll (found.notes name))
      simpa [Function.comp_def, served, CaseReport.recordAll_append] using rest

/-- What comes of an inventory: the names that it finds and its visits to them. -/
inductive Tour where
  | unlisted (fault : Fault)
  | listed (names : List String) (visits : List (String × Visit))
deriving DecidableEq, Repr

def tour (dut : Device σ) : Run σ Tour :=
  (dut.runFind .transceiver).proceed .unlisted fun names => .listed names <$> survey dut names

namespace Tour

/-- The fault that ends an inventory. To find nothing is one. -/
def fault? (model : String) : Tour → Option Fault
  | unlisted fault => some fault
  | listed [] _ => some (.noTransceivers model)
  | listed (_ :: _) visits => visits.findSome? (·.2.fault?)

def calls : Tour → List Call
  | unlisted _ => [.find .transceiver]
  | listed _ visits => .find .transceiver :: visits.flatMap fun (name, found) => found.calls name

def notes : Tour → List Note
  | unlisted _ => []
  | listed names visits => .log ("Found transceiver list: " ++ Text.quotedList names) ::
      visits.flatMap fun (name, found) => found.notes name

/-- What an inventory finds missing, visit by visit. -/
def errors : Tour → List String
  | unlisted _ => []
  | listed _ visits =>
    visits.flatMap fun (name, found) => found.emptyLeaves.map (emptyLine name)

theorem fault?_listed (model : String) (names : List String) (visits : List (String × Visit)) :
    (listed names visits).fault? model =
      if names = [] then some (.noTransceivers model) else visits.findSome? (·.2.fault?) := by
  cases names <;> rfl

theorem entries_notes (tour : Tour) : ∀ note ∈ tour.notes, note.entry?.isSome = true := by
  cases tour with
  | unlisted fault => nofun
  | listed names visits =>
    refine List.forall_mem_cons.mpr ⟨rfl, fun note mem => ?_⟩
    obtain ⟨⟨name, found⟩, -, noted⟩ := List.mem_flatMap.mp mem
    exact found.entries_notes name note noted

theorem errors_notes (tour : Tour) : tour.notes.filterMap Note.errorMessage? = tour.errors := by
  cases tour with
  | unlisted fault => rfl
  | listed names visits =>
    rw [notes, List.filterMap_cons, List.filterMap_flatMap, errors]
    exact List.flatMap_congr fun (name, found) _ => found.errors_notes name

end Tour

theorem recounts_procedure (dut : Device σ) :
    (procedure dut).Recounts { name := caseName } (tour dut) fun tour =>
      (stopAt (tour.fault? dut.model), { name := caseName : CaseReport }.recordAll tour.notes) := by
  rw [procedure_eq]
  refine .of_bind (fun _ => rfl) fun names => .note_bind ?_
  cases names with
  | nil => exact .map (.throw rfl)
  | cons name names => exact .map (recounts_survey dut (name :: names) _)

/-- Where entries were noted, and a fault may have come last, the fault decides, and then the
errors. -/
theorem report_stopAt {notes : List Note} (entries : ∀ note ∈ notes, note.entry?.isSome = true)
    (fault? : Option Fault) :
    let report :=
      Procedure.ended (stopAt fault?, { name := caseName : CaseReport }.recordAll notes)
    report.entries = notes.filterMap Note.entry? ∧
    report.errors = notes.filterMap Note.errorMessage? ∧
    report.fatal = fault?.map (·.message) ∧ report.skipReason = none ∧
    report.verdict =
      if report.fatal.isSome then .aborted else if report.errors = [] then .passed else .failed := by
  let noted := { name := caseName : CaseReport }.recordAll notes
  have kept : noted.entries = notes.filterMap Note.entry? := CaseReport.entries_recordAll _ notes
  have found : noted.errors = notes.filterMap Note.errorMessage? :=
    CaseReport.errors_recordAll _ notes
  have skip : noted.skipReason = none := by
    rw [CaseReport.skipReason_recordAll, Note.skipReasons_of_entries entries]
    rfl
  cases fault? with
  | some fault => exact ⟨kept, found, rfl, skip, rfl⟩
  | none =>
    have fatal : noted.fatal = none := by
      rw [CaseReport.fatal_recordAll, Note.faults_of_entries entries]
      rfl
    refine ⟨kept, found, fatal, skip, ?_⟩
    change noted.verdict = if noted.fatal.isSome then _ else if noted.errors = [] then _ else _
    rw [fatal, found]
    exact CaseReport.verdict_recordAll_of_entries caseName entries

/-- The output powers of the second transceiver cannot be read, so the third is not visited. -/
example :
    let dut := { Script.ofReads [] with
      transceivers := .ok ["a", "b", "c"]
      mfgNames := [("a", .ok none), ("b", .ok (some "M")), ("c", .ok (some "M"))]
      inputPowers := [("b", .ok [])] }.device
    (tour dut 0 {}).value = .listed ["a", "b", "c"]
      [("a", .cage), ("b", .unread "M" .outputPower (.unknownComponent "b"))] := by
  decide

end Inventory
end OpticsCheck
