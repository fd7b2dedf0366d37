import CodeGo.Gateway.Archives
import Mathlib.Data.Fintype.Basic

set_option autoImplicit false

namespace CodeGo.Gateway.Archive

open Relational

/- What the runs delete against what their files hold -/

def Archived (files : List (DataFile RecordData)) (row : Row) : Prop := ∃ file ∈ files, row ∈ fileRows file

instance (files : List (DataFile RecordData)) (row : Row) : Decidable (Archived files row) := by
  unfold Archived
  infer_instance

def Move.ofWriter : Move → Bool
  | .write _ => true
  | _ => false

-- A row that a step of a run takes out of the database is in a file as it was, and no file gives way to a smaller one.
structure Lawful (before : System) (move : Move) (after : System) : Prop where
  archived : move.ofWriter = false → ∀ row ∈ before.db.rows, row ∉ after.db.rows → Archived after.files row
  published : ∀ file ∈ before.files, ∃ later ∈ after.files, later.path = file.path ∧ (fileRows file).length ≤ (fileRows later).length

-- The rows that the transaction deletes once its checks have passed.
def Target.chosen (target : Target) (row : Row) : Bool :=
  match target, row with
  | .executions _ rows _ _, .execution row => (executionIDs rows).contains row.executionID
  | .executions _ rows _ _, .attempt row => (executionIDs rows).contains row.executionID
  | .executions _ rows _ _, .evidence row => (executionIDs rows).contains row.executionID
  | .requestAudits cutoff ids, .audit row => ids.contains row.requestID && eligibleAudit cutoff row
  | .requestAttemptAudits cutoff ids, .attemptAudit row => ids.contains row.attemptID && eligibleAttemptAudit cutoff row
  | _, _ => false

def Phase.deleting : Phase → Option (Job × Bool)
  | .delete job found => some (job, found)
  | _ => none

-- What a run deletes has not changed since the run read it; where the file was already there, it holds the row as it now is.
def Faithful (system : System) (move : Move) : Prop :=
  move = .next → ∀ deleting ∈ system.phase.deleting, (deleting.1.target.delete system.db).isSome = true →
    ∀ row ∈ system.db.rows, deleting.1.target.chosen row = true →
      if deleting.2 then ∃ file ∈ stat system.files deleting.1.batch.dataPath, row ∈ fileRows file else row ∈ deleting.1.read

instance (system : System) (move : Move) : Decidable (Faithful system move) := by
  unfold Faithful
  infer_instance

def Job.Complete (job : Job) : Prop := ∀ row ∈ job.read, row ∈ batchRows job.batch

-- Children are read by the ids of their executions, and a file that a run has written itself holds what the run has read.
def Kept (system : System) : Prop :=
  match system.phase with
  | .idle => True
  | .executions _ _ _ => True
  | .attempts _ _ executions attempts => ∀ row ∈ attempts, row.executionID ∈ executionIDs executions
  | .evidence _ _ executions attempts evidence =>
      (∀ row ∈ attempts, row.executionID ∈ executionIDs executions) ∧ ∀ row ∈ evidence, row.executionID ∈ executionIDs executions
  | .store job => job.Complete
  | .rename job => job.Complete ∧ stat system.files job.batch.dataPath = none
  | .validate job found => found = false → ∃ file, stat system.files job.batch.dataPath = some file ∧ ∀ row ∈ job.read, row ∈ fileRows file
  | .delete job found => found = false → ∃ file, stat system.files job.batch.dataPath = some file ∧ ∀ row ∈ job.read, row ∈ fileRows file

theorem file_rows_written (path : DataPath) (batch : Batch RecordData) :
    fileRows ⟨path, writeArchiveRecords batch.records⟩ = batchRows batch := by
  simp only [fileRows, batchRows, writeArchiveRecords, List.flatMap_map]

theorem load_attempts_of (db : Database) (executions : List RequestExecution) :
    ∀ row ∈ loadAttempts db executions, row.executionID ∈ executionIDs executions := by
  intro row member
  rw [loadAttempts, List.mem_insertionSort, List.mem_filter] at member
  exact List.contains_iff_mem.mp member.2

theorem load_evidence_of (db : Database) (executions : List RequestExecution) :
    ∀ row ∈ loadEvidence db executions, row.executionID ∈ executionIDs executions := by
  intro row member
  rw [loadEvidence, List.mem_insertionSort, List.mem_filter] at member
  exact List.contains_iff_mem.mp member.2

-- No row that the queries have returned is left out of the bundles.
theorem execution_job_complete (sha256 : List String → String) (cutoff : Int) (first : RequestExecution)
    (executions : List RequestExecution) (attempts : List ExecutionAttempt) (evidence : List UsageEvidence)
    (plans : List GatewayRoutePlan) (attemptsOf : ∀ row ∈ attempts, row.executionID ∈ executionIDs executions)
    (evidenceOf : ∀ row ∈ evidence, row.executionID ∈ executionIDs executions) :
    (executionJob sha256 cutoff first executions attempts evidence plans).Complete := by
  intro row member
  simp only [executionJob, batchRows, List.flatMap_map, List.mem_flatMap]
  simp only [executionJob, List.mem_append, List.mem_map] at member
  rcases member with (⟨execution, member, rfl⟩ | ⟨attempt, member, rfl⟩) | ⟨item, member, rfl⟩
  · exact ⟨execution, member, by simp [RecordData.rows, executionBundle]⟩
  · obtain ⟨execution, parent, same⟩ := List.mem_map.mp (attemptsOf attempt member)
    exact ⟨execution, parent, by simp [RecordData.rows, executionBundle, member, same]⟩
  · obtain ⟨execution, parent, same⟩ := List.mem_map.mp (evidenceOf item member)
    exact ⟨execution, parent, by simp [RecordData.rows, executionBundle, member, same]⟩

theorem request_audit_job_complete (sha256 : List String → String) (cutoff : Int) (first : RequestAudit)
    (rows : List RequestAudit) : (requestAuditJob sha256 cutoff first rows).Complete := by
  intro row member
  simpa [requestAuditJob, batchRows, List.flatMap_map, RecordData.rows, eq_comm] using member

theorem request_attempt_audit_job_complete (sha256 : List String → String) (cutoff : Int) (first : RequestAttemptAudit)
    (rows : List RequestAttemptAudit) : (requestAttemptAuditJob sha256 cutoff first rows).Complete := by
  intro row member
  simpa [requestAttemptAuditJob, batchRows, List.flatMap_map, RecordData.rows, eq_comm] using member

/- What one step does -/

theorem mem_rows_iff (db : Database) (row : Row) : row ∈ db.rows ↔
    match row with
    | .execution row => row ∈ db.executions
    | .attempt row => row ∈ db.attempts
    | .evidence row => row ∈ db.evidence
    | .audit row => row ∈ db.audits
    | .attemptAudit row => row ∈ db.attemptAudits := by
  cases row <;> simp [Database.rows]

theorem chosen_of_gone {α : Type} {rows : List α} (chosen : α → Bool) {row : α} (member : row ∈ rows)
    (gone : row ∉ rows.filter fun row => !chosen row) : chosen row = true := by
  by_contra other
  exact gone (List.mem_filter.mpr ⟨member, by simpa using other⟩)

theorem executions_deleted {db after : Database} {cutoff : Int} {executions : List RequestExecution} {attempts evidence : Nat}
    (deleted : deleteArchivedExecutionBundles db cutoff executions attempts evidence = some after) (row : Row)
    (member : row ∈ db.rows) (gone : row ∉ after.rows) : (Target.executions cutoff executions attempts evidence).chosen row = true := by
  simp only [deleteArchivedExecutionBundles] at deleted
  split_ifs at deleted
  cases deleted
  rw [mem_rows_iff] at member gone
  cases row with
  | execution row => exact chosen_of_gone (fun row : RequestExecution => (executionIDs executions).contains row.executionID) member gone
  | attempt row => exact chosen_of_gone (fun row : ExecutionAttempt => (executionIDs executions).contains row.executionID) member gone
  | evidence row => exact chosen_of_gone (fun row : UsageEvidence => (executionIDs executions).contains row.executionID) member gone
  | audit row => exact (gone member).elim
  | attemptAudit row => exact (gone member).elim

theorem request_audits_deleted {db after : Database} {cutoff : Int} {ids : List String}
    (deleted : deleteRequestAudits db cutoff ids = some after) (row : Row) (member : row ∈ db.rows) (gone : row ∉ after.rows) :
    (Target.requestAudits cutoff ids).chosen row = true := by
  simp only [deleteRequestAudits] at deleted
  split_ifs at deleted
  cases deleted
  rw [mem_rows_iff] at member gone
  cases row with
  | audit row => exact chosen_of_gone (fun row : RequestAudit => ids.contains row.requestID && eligibleAudit cutoff row) member gone
  | _ => exact (gone member).elim

theorem request_attempt_audits_deleted {db after : Database} {cutoff : Int} {ids : List String}
    (deleted : deleteRequestAttemptAudits db cutoff ids = some after) (row : Row) (member : row ∈ db.rows)
    (gone : row ∉ after.rows) : (Target.requestAttemptAudits cutoff ids).chosen row = true := by
  simp only [deleteRequestAttemptAudits] at deleted
  split_ifs at deleted
  cases deleted
  rw [mem_rows_iff] at member gone
  cases row with
  | attemptAudit row => exact chosen_of_gone (fun row : RequestAttemptAudit => ids.contains row.attemptID && eligibleAttemptAudit cutoff row) member gone
  | _ => exact (gone member).elim

-- A transaction takes out only the rows it has chosen.
theorem deleted_chosen {db after : Database} {target : Target} (deleted : target.delete db = some after) (row : Row)
    (member : row ∈ db.rows) (gone : row ∉ after.rows) : target.chosen row = true := by
  cases target with
  | executions cutoff executions attempts evidence => exact executions_deleted deleted row member gone
  | requestAudits cutoff ids => exact request_audits_deleted deleted row member gone
  | requestAttemptAudits cutoff ids => exact request_attempt_audits_deleted deleted row member gone

section

variable {sha256 : List String → String} {system : System}

theorem Kept.starts (idle : Kept system) (dataset : Dataset) (now retentionDays limit : Int) :
    Kept (startRun sha256 system dataset now retentionDays limit) := by
  rw [startRun]
  by_cases off : retentionDays ≤ 0 ∨ limit ≤ 0
  · rw [if_pos off]
    exact idle
  · rw [if_neg off]
    generalize now - retentionDays * day = cutoff
    cases dataset with
    | gatewayExecutions =>
        simp only [select]
        cases oldest _ _ limit (system.db.executions.filter (eligibleExecution cutoff)) <;> trivial
    | requestAudits =>
        simp only [select]
        cases oldest _ _ limit (system.db.audits.filter (eligibleAudit cutoff)) with
        | nil => trivial
        | cons first rest => exact request_audit_job_complete sha256 cutoff first (first :: rest)
    | requestAttemptAudits =>
        simp only [select]
        cases oldest _ _ limit (system.db.attemptAudits.filter (eligibleAttemptAudit cutoff)) with
        | nil => trivial
        | cons first rest => exact request_attempt_audit_job_complete sha256 cutoff first (first :: rest)

theorem Kept.looks {job : Job} (complete : job.Complete) : Kept (statBatch system job) := by
  rw [statBatch]
  by_cases valid : validateBatch job.batch = true
  · rw [if_pos valid]
    cases there : stat system.files job.batch.dataPath with
    | none => exact ⟨complete, there⟩
    | some file => exact fun fresh => nomatch fresh
  · rw [if_neg valid]
    trivial

theorem Kept.publishes {job : Job} (complete : job.Complete) (missing : stat system.files job.batch.dataPath = none) :
    Kept (publishBatch system job) := by
  rw [publishBatch]
  cases inspectArchive (writeArchiveRecords job.batch.records) job.batch.records.length with
  | none => trivial
  | some count =>
      refine fun _ => ⟨⟨job.batch.dataPath, writeArchiveRecords job.batch.records⟩, stat_published missing, ?_⟩
      intro row read
      rw [file_rows_written]
      exact complete row read

theorem Kept.validates {job : Job} {found : Bool}
    (holds : found = false → ∃ file, stat system.files job.batch.dataPath = some file ∧ ∀ row ∈ job.read, row ∈ fileRows file) :
    Kept (validateAndManifest system job found) := by
  rw [validateAndManifest]
  cases there : stat system.files job.batch.dataPath with
  | none => trivial
  | some file =>
      simp only
      cases inspectArchive file.lines job.batch.records.length with
      | none => trivial
      | some count => exact holds

theorem Kept.deletes (job : Job) : Kept (deleteBatch system job) := by
  rw [deleteBatch]
  cases job.target.delete system.db <;> trivial

theorem Kept.nexts (kept : Kept system) : Kept (nextStep sha256 system) := by
  unfold Kept at kept
  cases phase : system.phase with
  | idle => simp only [nextStep, phase, Kept]
  | executions cutoff first executions =>
      simp only [nextStep, phase]
      exact load_attempts_of system.db executions
  | attempts cutoff first executions attempts =>
      simp only [phase] at kept
      simp only [nextStep, phase]
      exact ⟨kept, load_evidence_of system.db executions⟩
  | evidence cutoff first executions attempts evidence =>
      simp only [phase] at kept
      simp only [nextStep, phase]
      exact execution_job_complete sha256 cutoff first executions attempts evidence _ kept.1 kept.2
  | store job =>
      simp only [phase] at kept
      simp only [nextStep, phase]
      exact Kept.looks kept
  | rename job =>
      simp only [phase] at kept
      simp only [nextStep, phase]
      exact Kept.publishes kept.1 kept.2
  | validate job found =>
      simp only [phase] at kept
      simp only [nextStep, phase]
      exact Kept.validates kept
  | delete job found =>
      simp only [nextStep, phase]
      exact Kept.deletes job

theorem Kept.move (kept : Kept system) (move : Move) : Kept (step sha256 system move) := by
  cases move with
  | start dataset now retentionDays limit =>
      rw [step]
      by_cases idle : system.phase = .idle
      · rw [if_pos idle]
        exact kept.starts dataset now retentionDays limit
      · rw [if_neg idle]
        exact kept
  | next => exact kept.nexts
  | renameRefused =>
      rw [step]
      cases phase : system.phase with
      | rename job =>
          simp only
          by_cases there : (stat system.files job.batch.dataPath).isSome = true
          · rw [if_pos there]
            exact fun fresh => nomatch fresh
          · rw [if_neg there]
            trivial
      | _ => exact kept
  | fail => trivial
  | write write => exact kept

-- A step publishes at most a new file, under a name that was free.
theorem Kept.files (kept : Kept system) (move : Move) :
    (step sha256 system move).files = system.files ∨ ∃ file, (step sha256 system move).files = system.files ++ [file] := by
  unfold Kept at kept
  cases move with
  | start dataset now retentionDays limit =>
      left
      rw [step, startRun]
      split_ifs <;> rfl
  | next =>
      rw [step]
      cases phase : system.phase with
      | rename job =>
          simp only [phase] at kept
          simp only [nextStep, phase, publishBatch]
          cases inspectArchive (writeArchiveRecords job.batch.records) job.batch.records.length with
          | none => exact .inl rfl
          | some count => exact .inr ⟨_, publish_new kept.2⟩
      | store job =>
          left
          simp only [nextStep, phase, statBatch]
          split_ifs
          · cases stat system.files job.batch.dataPath <;> rfl
          · rfl
      | validate job found =>
          left
          simp only [nextStep, phase, validateAndManifest]
          cases stat system.files job.batch.dataPath with
          | none => rfl
          | some file =>
              simp only
              cases inspectArchive file.lines job.batch.records.length <;> rfl
      | delete job found =>
          left
          simp only [nextStep, phase, deleteBatch]
          cases job.target.delete system.db <;> rfl
      | _ => exact .inl (by simp only [nextStep, phase])
  | renameRefused =>
      left
      rw [step]
      cases system.phase <;> rfl
  | fail => exact .inl rfl
  | write write => exact .inl rfl

theorem Kept.published (kept : Kept system) (move : Move) :
    ∀ file ∈ system.files, ∃ later ∈ (step sha256 system move).files,
      later.path = file.path ∧ (fileRows file).length ≤ (fileRows later).length := by
  intro file member
  have stays : file ∈ (step sha256 system move).files := by
    have cause : (step sha256 system move).files = system.files ∨ ∃ other, (step sha256 system move).files = system.files ++ [other] :=
      kept.files move
    obtain same | ⟨other, more⟩ := cause
    · rw [same]
      exact member
    · rw [more]
      exact List.mem_append_left _ member
  exact ⟨file, stays, rfl, le_rfl⟩

-- Only the last transaction of a run takes rows out of the database.
theorem untouched_or_deleting (move : Move) (run : move.ofWriter = false) :
    (step sha256 system move).db = system.db ∨ move = .next ∧ ∃ job found, system.phase = .delete job found := by
  cases move with
  | start dataset now retentionDays limit =>
      left
      rw [step, startRun]
      split_ifs <;> rfl
  | next =>
      rw [step]
      cases phase : system.phase with
      | delete job found => exact .inr ⟨rfl, job, found, rfl⟩
      | store job =>
          left
          simp only [nextStep, phase, statBatch]
          split_ifs
          · cases stat system.files job.batch.dataPath <;> rfl
          · rfl
      | rename job =>
          left
          simp only [nextStep, phase, publishBatch]
          cases inspectArchive (writeArchiveRecords job.batch.records) job.batch.records.length <;> rfl
      | validate job found =>
          left
          simp only [nextStep, phase, validateAndManifest]
          cases stat system.files job.batch.dataPath with
          | none => rfl
          | some file =>
              simp only
              cases inspectArchive file.lines job.batch.records.length <;> rfl
      | _ => exact .inl (by simp only [nextStep, phase])
  | renameRefused =>
      left
      rw [step]
      cases system.phase <;> rfl
  | fail => exact .inl rfl
  | write write => exact nomatch run

theorem Kept.archives (kept : Kept system) (move : Move) (faithful : Faithful system move) (run : move.ofWriter = false)
    (row : Row) (member : row ∈ system.db.rows) (gone : row ∉ (step sha256 system move).db.rows) :
    Archived (step sha256 system move).files row := by
  have cause : (step sha256 system move).db = system.db ∨ move = .next ∧ ∃ job found, system.phase = .delete job found :=
    untouched_or_deleting move run
  obtain same | ⟨rfl, job, found, phase⟩ := cause
  · exact (gone (same ▸ member)).elim
  · unfold Kept at kept
    simp only [phase] at kept
    simp only [step, nextStep, phase, deleteBatch] at gone ⊢
    cases deleted : job.target.delete system.db with
    | none =>
        rw [deleted] at gone
        exact (gone member).elim
    | some after =>
        rw [deleted] at gone
        have passes : (job.target.delete system.db).isSome = true := by rw [deleted]; rfl
        have deleting : (job, found) ∈ system.phase.deleting := by rw [phase]; rfl
        have held := faithful rfl _ deleting passes row member (deleted_chosen deleted row member gone)
        cases found with
        | true =>
            obtain ⟨file, there, holds⟩ := held
            exact ⟨file, (stat_some there).1, holds⟩
        | false =>
            obtain ⟨file, there, holds⟩ := kept rfl
            exact ⟨file, (stat_some there).1, holds row held⟩

end

-- The digest of the one request id below.
def digestOfReq : List String → String := fun _ => "1a13a368d0619c102f60809c4374828bdf4e2c9413f1a0e1d0ea3d6d6ead4c9d"

def finishedAudit : RequestAudit := { requestID := "req", status := "succeeded", completedAt := second, quota := 1 }

def oneAudit : System := { db := { audits := [finishedAudit] } }

def undisturbedRun : List Move := [.start .requestAudits (8 * day) 7 100, .next, .next, .next, .next]

-- The first run writes its file and fails to delete; the audit is corrected before the second run finds that file.
def correctedAudit : RequestAudit := { finishedAudit with quota := 2 }

def retriedRun : List Move :=
  [.start .requestAudits (8 * day) 7 100, .next, .next, .next, .fail, .write (.audit correctedAudit),
    .start .requestAudits (8 * day) 7 100, .next, .next]

end CodeGo.Gateway.Archive
