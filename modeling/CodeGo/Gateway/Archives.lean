import CodeGo.Gateway.ArchiveSink
import CodeGo.Lib.Trace
import Mathlib.Data.List.Sort

set_option autoImplicit false

namespace CodeGo.Gateway.Archive

open Relational

/- Runs that move settled executions and finished audits out of the database. Each query, each step
   of the sink and the final transaction is one step, and other writers act between any two. -/

def requestExecutionStatusSettled : String := "settled"

structure RequestExecution where
  executionID : String
  requestID : String := ""
  traceID : String := ""
  userID : Int := 0
  tokenID : Int := 0
  accountID : String := ""
  reservationID : String := ""
  settlementID : String := ""
  routePlanID : String := ""
  status : String := "recorded"
  actualAmount : Int := 0
  usageEvidenceID : String := ""
  createdAt : Int := 0
  updatedAt : Int := 0
deriving DecidableEq, Repr

structure GatewayRoutePlan where
  routePlanID : String
  requestID : String := ""
  traceID : String := ""
  status : String := ""
  createdAt : Int := 0
  updatedAt : Int := 0
deriving DecidableEq, Repr

structure ExecutionAttempt where
  attemptID : String
  executionID : String
  traceID : String := ""
  attemptNo : Int := 0
  status : String := ""
  createdAt : Int := 0
deriving DecidableEq, Repr

structure UsageEvidence where
  usageEvidenceID : String
  executionID : String
  requestID : String := ""
  traceID : String := ""
  actualAmount : Int := 0
  createdAt : Int := 0
deriving DecidableEq, Repr

structure RequestAudit where
  requestID : String
  traceID : String := ""
  userID : Int := 0
  tokenID : Int := 0
  modelName : String := ""
  group : String := ""
  protocol : String := ""
  requestType : String := ""
  status : String := ""
  countedInSuccessRate : Bool := true
  billable : Bool := false
  quota : Int := 0
  promptTokens : Int := 0
  completionTokens : Int := 0
  finalChannelID : Int := 0
  attemptsCount : Int := 0
  retryCount : Int := 0
  statusCode : Int := 0
  errorCode : String := ""
  startedAt : Int := 0
  completedAt : Int := 0
  createdAt : Int := 0
  updatedAt : Int := 0
deriving DecidableEq, Repr

structure RequestAttemptAudit where
  attemptID : String
  requestID : String := ""
  attemptNo : Int := 0
  retryIndex : Int := 0
  channelID : Int := 0
  modelName : String := ""
  faultDomain : String := ""
  requestType : String := ""
  status : String := ""
  success : Bool := false
  statusCode : Int := 0
  failureClass : String := ""
  stage : String := ""
  startedAt : Int := 0
  completedAt : Int := 0
  durationMS : Int := 0
  createdAt : Int := 0
deriving DecidableEq, Repr

structure Database where
  executions : List RequestExecution := []
  attempts : List ExecutionAttempt := []
  evidence : List UsageEvidence := []
  plans : List GatewayRoutePlan := []
  audits : List RequestAudit := []
  attemptAudits : List RequestAttemptAudit := []
deriving DecidableEq, Repr

-- The rows that a run may delete.
inductive Row where
  | execution (row : RequestExecution)
  | attempt (row : ExecutionAttempt)
  | evidence (row : UsageEvidence)
  | audit (row : RequestAudit)
  | attemptAudit (row : RequestAttemptAudit)
deriving DecidableEq, Repr

def Database.rows (db : Database) : List Row :=
  db.executions.map .execution ++ db.attempts.map .attempt ++ db.evidence.map .evidence ++ db.audits.map .audit ++
    db.attemptAudits.map .attemptAudit

structure ExecutionArchiveBundle where
  execution : RequestExecution
  routePlan : Option GatewayRoutePlan
  attempts : List ExecutionAttempt
  usageEvidence : List UsageEvidence
deriving DecidableEq, Repr

inductive RecordData where
  | executionBundle (bundle : ExecutionArchiveBundle)
  | requestAudit (row : RequestAudit)
  | requestAttemptAudit (row : RequestAttemptAudit)
deriving DecidableEq, Repr

-- The rows that can be read back from a record.
def RecordData.rows : RecordData → List Row
  | .executionBundle bundle =>
      .execution bundle.execution :: bundle.attempts.map .attempt ++ bundle.usageEvidence.map .evidence
  | .requestAudit row => [.audit row]
  | .requestAttemptAudit row => [.attemptAudit row]

def batchRows (batch : Batch RecordData) : List Row := batch.records.flatMap fun record => record.data.rows

def fileRows (file : DataFile RecordData) : List Row := file.lines.flatMap fun line => line.data.rows

/- The queries -/

def eligibleExecution (cutoff : Int) (row : RequestExecution) : Bool :=
  row.status == requestExecutionStatusSettled && decide (row.updatedAt < cutoff)

def terminalAuditStatuses : List String := ["succeeded", "failed", "rejected", "cancelled"]

def eligibleAudit (cutoff : Int) (row : RequestAudit) : Bool :=
  terminalAuditStatuses.contains row.status && decide (row.completedAt < cutoff)

def eligibleAttemptAudit (cutoff : Int) (row : RequestAttemptAudit) : Bool :=
  decide (0 < row.completedAt) && decide (row.completedAt < cutoff)

-- The first rows of a query, in the order of a time and then of a key.
def oldest {α : Type} (time : α → Int) (key : α → String) (limit : Int) (rows : List α) : List α :=
  (rows.insertionSort fun first second => time first < time second ∨ time first = time second ∧ key first ≤ key second).take
    limit.toNat

def executionIDs (executions : List RequestExecution) : List String := executions.map (·.executionID)

def routePlanIDs (executions : List RequestExecution) : List String :=
  ((executions.map (·.routePlanID)).filter fun id => id != "").reverse.dedup.reverse

def loadAttempts (db : Database) (executions : List RequestExecution) : List ExecutionAttempt :=
  (db.attempts.filter fun row => (executionIDs executions).contains row.executionID).insertionSort fun first second =>
    first.executionID < second.executionID ∨ first.executionID = second.executionID ∧
      (first.attemptNo < second.attemptNo ∨ first.attemptNo = second.attemptNo ∧ first.attemptID ≤ second.attemptID)

def loadEvidence (db : Database) (executions : List RequestExecution) : List UsageEvidence :=
  (db.evidence.filter fun row => (executionIDs executions).contains row.executionID).insertionSort fun first second =>
    first.executionID < second.executionID ∨
      first.executionID = second.executionID ∧ first.usageEvidenceID ≤ second.usageEvidenceID

def loadPlans (db : Database) (executions : List RequestExecution) : List GatewayRoutePlan :=
  db.plans.filter fun row => (routePlanIDs executions).contains row.routePlanID

-- Of plans with one id, the map keeps the last.
def executionBundle (attempts : List ExecutionAttempt) (evidence : List UsageEvidence) (plans : List GatewayRoutePlan)
    (execution : RequestExecution) : ExecutionArchiveBundle where
  execution := execution
  routePlan := (plans.filter fun plan => plan.routePlanID == execution.routePlanID).getLast?
  attempts := attempts.filter fun row => row.executionID == execution.executionID
  usageEvidence := evidence.filter fun row => row.executionID == execution.executionID

/- The batches -/

-- What the last transaction of a run deletes, under the checks it makes first.
inductive Target where
  | executions (cutoff : Int) (executions : List RequestExecution) (attempts evidence : Nat)
  | requestAudits (cutoff : Int) (ids : List String)
  | requestAttemptAudits (cutoff : Int) (ids : List String)
deriving DecidableEq, Repr

-- The rows as the queries of the run returned them are kept for the statements only.
structure Job where
  batch : Batch RecordData
  target : Target
  read : List Row
deriving DecidableEq, Repr

section

-- The digest of ids that are each followed by a zero byte, in hexadecimal digits.
variable (sha256 : List String → String)

def gatewayArchiveBatchID (updatedAt : Int) (ids : List String) : String :=
  toString (updatedAt / second) ++ "-" ++ String.ofList ((sha256 ids).toList.take 16)

def auditArchiveBatchID (completedAt : Int) (ids : List String) : String := toString (completedAt / second) ++ "-" ++ sha256 ids

def executionJob (cutoff : Int) (first : RequestExecution) (executions : List RequestExecution)
    (attempts : List ExecutionAttempt) (evidence : List UsageEvidence) (plans : List GatewayRoutePlan) : Job where
  batch :=
    { dataset := "gateway-executions"
      partition := first.updatedAt
      id := gatewayArchiveBatchID sha256 first.updatedAt (executionIDs executions)
      records := executions.map fun execution =>
        ⟨"gateway_execution_bundle", .executionBundle (executionBundle attempts evidence plans execution)⟩ }
  target := .executions cutoff executions attempts.length evidence.length
  read := executions.map .execution ++ attempts.map .attempt ++ evidence.map .evidence

def requestAuditJob (cutoff : Int) (first : RequestAudit) (rows : List RequestAudit) : Job where
  batch :=
    { dataset := "request-audits"
      partition := first.completedAt
      id := auditArchiveBatchID sha256 first.completedAt (rows.map (·.requestID))
      records := rows.map fun row => ⟨"request_audit", .requestAudit row⟩ }
  target := .requestAudits cutoff (rows.map (·.requestID))
  read := rows.map .audit

def requestAttemptAuditJob (cutoff : Int) (first : RequestAttemptAudit) (rows : List RequestAttemptAudit) : Job where
  batch :=
    { dataset := "request-attempt-audits"
      partition := first.completedAt
      id := auditArchiveBatchID sha256 first.completedAt (rows.map (·.attemptID))
      records := rows.map fun row => ⟨"request_attempt_audit", .requestAttemptAudit row⟩ }
  target := .requestAttemptAudits cutoff (rows.map (·.attemptID))
  read := rows.map .attemptAudit

end

/- The transactions -/

def deleteUnreferencedRoutePlans (db : Database) (planIDs : List String) : Database :=
  let referenced := (db.executions.map (·.routePlanID)).filter planIDs.contains
  let unreferenced := planIDs.filter fun id => id != "" && !referenced.contains id
  { db with plans := db.plans.filter fun plan => !unreferenced.contains plan.routePlanID }

def verifyExecutionArchiveChildren (db : Database) (ids : List String) (attempts evidence : Nat) : Bool :=
  (db.attempts.filter fun row => ids.contains row.executionID).length == attempts &&
    (db.evidence.filter fun row => ids.contains row.executionID).length == evidence

def deleteArchivedExecutionBundles (db : Database) (cutoff : Int) (executions : List RequestExecution)
    (attempts evidence : Nat) : Option Database :=
  let ids := executionIDs executions
  if (db.executions.filter fun row => ids.contains row.executionID && eligibleExecution cutoff row).length ≠ executions.length then none
  else if !verifyExecutionArchiveChildren db ids attempts evidence then none
  else if (db.executions.filter fun row => ids.contains row.executionID).length ≠ executions.length then none
  else
    let db := { db with
      attempts := db.attempts.filter fun row => !ids.contains row.executionID
      evidence := db.evidence.filter fun row => !ids.contains row.executionID
      executions := db.executions.filter fun row => !ids.contains row.executionID }
    some (deleteUnreferencedRoutePlans db (routePlanIDs executions))

def deleteRequestAudits (db : Database) (cutoff : Int) (ids : List String) : Option Database :=
  let chosen := fun row : RequestAudit => ids.contains row.requestID && eligibleAudit cutoff row
  if (db.audits.filter chosen).length ≠ ids.length then none
  else some { db with audits := db.audits.filter fun row => !chosen row }

def deleteRequestAttemptAudits (db : Database) (cutoff : Int) (ids : List String) : Option Database :=
  let chosen := fun row : RequestAttemptAudit => ids.contains row.attemptID && eligibleAttemptAudit cutoff row
  if (db.attemptAudits.filter chosen).length ≠ ids.length then none
  else some { db with attemptAudits := db.attemptAudits.filter fun row => !chosen row }

def Target.delete (target : Target) (db : Database) : Option Database :=
  match target with
  | .executions cutoff rows attempts evidence => deleteArchivedExecutionBundles db cutoff rows attempts evidence
  | .requestAudits cutoff ids => deleteRequestAudits db cutoff ids
  | .requestAttemptAudits cutoff ids => deleteRequestAttemptAudits db cutoff ids

/- The steps -/

inductive Dataset where
  | gatewayExecutions
  | requestAudits
  | requestAttemptAudits
deriving DecidableEq, Repr

-- What the run in progress has done so far; after the sink has looked for the file, whether it was there.
inductive Phase where
  | idle
  | executions (cutoff : Int) (first : RequestExecution) (executions : List RequestExecution)
  | attempts (cutoff : Int) (first : RequestExecution) (executions : List RequestExecution) (attempts : List ExecutionAttempt)
  | evidence (cutoff : Int) (first : RequestExecution) (executions : List RequestExecution) (attempts : List ExecutionAttempt)
      (evidence : List UsageEvidence)
  | store (job : Job)
  | rename (job : Job)
  | validate (job : Job) (found : Bool)
  | delete (job : Job) (found : Bool)
deriving DecidableEq, Repr

structure System where
  db : Database
  files : List (DataFile RecordData) := []
  phase : Phase := .idle
deriving DecidableEq, Repr

inductive Write where
  | execution (row : RequestExecution)
  | plan (row : GatewayRoutePlan)
  | attempt (row : ExecutionAttempt)
  | evidence (row : UsageEvidence)
  | audit (row : RequestAudit)
  | attemptAudit (row : RequestAttemptAudit)
deriving DecidableEq, Repr

inductive Move where
  | start (dataset : Dataset) (now retentionDays limit : Int)
  | next
  | renameRefused
  | fail
  | write (write : Write)
deriving DecidableEq, Repr

-- A row with a new key is inserted; one with a key that is there takes the old one's place.
def upsert {α : Type} (key : α → String) (row : α) (rows : List α) : List α :=
  if rows.any fun other => key other == key row then rows.map fun other => if key other = key row then row else other
  else rows ++ [row]

def Write.apply (write : Write) (db : Database) : Database :=
  match write with
  | .execution row => { db with executions := upsert (·.executionID) row db.executions }
  | .plan row => { db with plans := upsert (·.routePlanID) row db.plans }
  | .attempt row => { db with attempts := upsert (·.attemptID) row db.attempts }
  | .evidence row => { db with evidence := upsert (·.usageEvidenceID) row db.evidence }
  | .audit row => { db with audits := upsert (·.requestID) row db.audits }
  | .attemptAudit row => { db with attemptAudits := upsert (·.attemptID) row db.attemptAudits }

section

variable (sha256 : List String → String)

-- The first query of a run, which is over when no row is old enough.
def select (db : Database) (dataset : Dataset) (cutoff limit : Int) : Phase :=
  match dataset with
  | .gatewayExecutions =>
      match oldest (·.updatedAt) (·.executionID) limit (db.executions.filter (eligibleExecution cutoff)) with
      | [] => .idle
      | first :: rest => .executions cutoff first (first :: rest)
  | .requestAudits =>
      match oldest (·.completedAt) (·.requestID) limit (db.audits.filter (eligibleAudit cutoff)) with
      | [] => .idle
      | first :: rest => .store (requestAuditJob sha256 cutoff first (first :: rest))
  | .requestAttemptAudits =>
      match oldest (·.completedAt) (·.attemptID) limit (db.attemptAudits.filter (eligibleAttemptAudit cutoff)) with
      | [] => .idle
      | first :: rest => .store (requestAttemptAuditJob sha256 cutoff first (first :: rest))

def startRun (system : System) (dataset : Dataset) (now retentionDays limit : Int) : System :=
  if retentionDays ≤ 0 ∨ limit ≤ 0 then system
  else { system with phase := select sha256 system.db dataset (now - retentionDays * day) limit }

def statBatch (system : System) (job : Job) : System :=
  if validateBatch job.batch then
    match stat system.files job.batch.dataPath with
    | some _ => { system with phase := .validate job true }
    | none => { system with phase := .rename job }
  else { system with phase := .idle }

-- The records go to a temporary file, which takes its name once it has been inspected.
def publishBatch (system : System) (job : Job) : System :=
  let lines := writeArchiveRecords job.batch.records
  match inspectArchive lines job.batch.records.length with
  | some _ => { system with files := publish system.files ⟨job.batch.dataPath, lines⟩, phase := .validate job false }
  | none => { system with phase := .idle }

def validateAndManifest (system : System) (job : Job) (found : Bool) : System :=
  match stat system.files job.batch.dataPath with
  | none => { system with phase := .idle }
  | some file =>
      match inspectArchive file.lines job.batch.records.length with
      | some _ => { system with phase := .delete job found }
      | none => { system with phase := .idle }

def deleteBatch (system : System) (job : Job) : System :=
  match job.target.delete system.db with
  | some db => { system with db := db, phase := .idle }
  | none => { system with phase := .idle }

def nextStep (system : System) : System :=
  match system.phase with
  | .idle => system
  | .executions cutoff first executions =>
      { system with phase := .attempts cutoff first executions (loadAttempts system.db executions) }
  | .attempts cutoff first executions attempts =>
      { system with phase := .evidence cutoff first executions attempts (loadEvidence system.db executions) }
  | .evidence cutoff first executions attempts evidence =>
      { system with
        phase := .store (executionJob sha256 cutoff first executions attempts evidence (loadPlans system.db executions)) }
  | .store job => statBatch system job
  | .rename job => publishBatch system job
  | .validate job found => validateAndManifest system job found
  | .delete job _ => deleteBatch system job

-- A run starts when the one before it has returned; a failed or crashed step leaves no trace.
def step (system : System) : Move → System
  | .start dataset now retentionDays limit =>
      if system.phase = .idle then startRun sha256 system dataset now retentionDays limit else system
  | .next => nextStep sha256 system
  | .renameRefused =>
      match system.phase with
      | .rename job => { system with phase := if (stat system.files job.batch.dataPath).isSome then .validate job true else .idle }
      | _ => system
  | .fail => { system with phase := .idle }
  | .write write => { system with db := write.apply system.db }

end

end CodeGo.Gateway.Archive
