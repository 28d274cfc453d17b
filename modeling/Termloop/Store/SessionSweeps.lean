import Termloop.Store.SessionAdmission

/-!
The operations that take out many Sessions at once: the reconciliation at a restart,
the reset of a Project's assistant, and the deletion of a Task or a whole Project.
-/
namespace TermloopSessions
open TermloopRecordLists TermloopOutcome TermloopSaturating TermloopStore TermloopWorkflow

/-- The descriptor that a restart leaves, and whether it goes as an obsolete assistant or a
    finished run. -/
structure RestartVerdict where
  session : SessionRecord
  changed : Bool
  obsolete : Bool := false
  retired : Bool := false

/-- `collect` into a map: of two records with one id the later one counts. -/
def readinessOf (file : StateFile) (sessionId : String) : Option AgentConversationReadiness :=
  (file.agentConversationReadiness.reverse.find? (·.sessionId == sessionId)).map (·.readiness)

def restartedAgent (session : SessionRecord) : SessionRecord :=
  match session.resumeRef with
  | none =>
    { session with lifecycleState := "resumeFailed", resumeFailure := some .resumeRefMissing }
  | some value =>
    if !value.validate then
      { session with
        resumeRef := none, lifecycleState := "resumeFailed"
        resumeFailure := some .invalidResumeRef }
    else if !providerMatchesAgent value.provider session.process.agentId then
      { session with lifecycleState := "resumeFailed", resumeFailure := some .providerMismatch }
    else { session with lifecycleState := "resuming", resumeFailure := none }

def restartVerdict (file : StateFile) (session : SessionRecord) : RestartVerdict :=
  let configuredAssistant := (executorSessionIds file).contains session.id
  let retryCapabilityProbe := session.kind == .agent
    && session.lifecycleState == "resumeFailed"
    && session.resumeFailure == some .resumeCapabilityUnavailable
  let restartCandidate := ["running", "resuming"].contains session.lifecycleState
    || (configuredAssistant && session.lifecycleState == "exited")
    || retryCapabilityProbe
  if !restartCandidate then { session := session, changed := false }
  else if session.process.templateRef == some stewardExecutorTemplate
      && !configuredAssistant then
    { session := session.exited, changed := true, obsolete := true }
  else if session.kind == .terminal then
    -- a run can be started again at any time; the stale row of a shell stays
    if session.runConfigurationId.isSome then
      { session := session, changed := true, retired := true }
    else
      { session := { session with lifecycleState := "stale", resumeFailure := none }
        changed := true }
  else if readinessOf file session.id == some .unconfirmed && !configuredAssistant then
    { session := session.exited, changed := true }
  else { session := restartedAgent session, changed := true }

def currentAfterRestart (configured : List String) (session : SessionRecord) : Bool :=
  ["running", "resuming"].contains session.lifecycleState
    || (configured.contains session.id
      && session.kind == .agent
      && (session.process.templateRef == some "builtin.assistant.activation"
        || session.process.templateRef == some stewardExecutorTemplate))

def staleExecutors (configured : List String) (file : StateFile) : List String :=
  let current := (file.sessions.filter (currentAfterRestart configured)).map (·.id)
  (executorSessionIds file).filter fun id => !current.contains id

/-- Ended Sessions go, and Stewards let go of executors that are not current. The flag says
    whether anything changed. -/
def sweepForRestart (file : StateFile) : Bool × StateFile :=
  let verdicts := file.sessions.map (restartVerdict file)
  let judged : StateFile := { file with sessions := verdicts.map (·.session) }
  let assistants := removeExactSessionDescriptors
    ((verdicts.filter (·.obsolete)).map (·.session.id)) judged
  let runs := removeExactSessionDescriptors
    ((verdicts.filter (·.retired)).map (·.session.id)) assistants.2
  let executors := clearExecutorSessionReferences
    (staleExecutors (executorSessionIds file) runs.2) runs.2
  let swept := removeObsoleteAssistantSessions executors.2
  (verdicts.any (·.changed) || assistants.1 || runs.1 || executors.1 || swept.1, swept.2)

def reconcileRestart (persisted : Bool) (file : StateFile) : FileAnswer Unit :=
  let swept := sweepForRestart file
  if swept.1 then commitFile persisted file swept.2 () else (.ok (), swept.2)

def sessionIsProjectAssistant (session : SessionRecord) : Bool :=
  [some "builtin.assistant.activation", some stewardExecutorTemplate,
      some "builtin.improver.steward-instructions", some "builtin.improver.routine-instructions",
      some "builtin.builder.routine", some "builtin.builder.playbook"].contains
        session.process.templateRef
    || session.improverTarget.any fun target =>
      [.stewardInstructions, .routineInstructions, .routineBuilder, .playbook].contains
        target.targetKind

/-- The brief of a Task whose Steward goes away; `none` where a counter is exhausted. -/
def clearBrief (projectId : String) (updatedAt : Nat) (task : TaskRecord) : Option TaskRecord :=
  if task.projectId == projectId && !task.stewardBriefMarkdown.isEmpty then
    if task.stewardBriefRevision + 1 > u64Max || task.updatedAt + 1 > u64Max then none
    else some
      { task with
        stewardBriefRevision := task.stewardBriefRevision + 1, stewardBriefMarkdown := ""
        updatedAt := max updatedAt (task.updatedAt + 1) }
  else some task

def assistantSessionIds (projectId : String) (file : StateFile) : List String :=
  let configured := (file.stewardConfigurations.filter
    (·.projectId == projectId)).filterMap (·.executorSessionId)
  (file.sessions.filter fun session =>
    session.projectId == projectId
      && (configured.contains session.id || sessionIsProjectAssistant session)).map (·.id)

def resetProjectAssistant (projectId : String) (expectedRevision updatedAt : Nat)
    (persisted : Bool) (file : StateFile) : FileAnswer (List String) :=
  if expectedRevision != file.revision then (.error .revisionConflict, file)
  else if !file.projects.any (·.id == projectId) then (.error .notFound, file)
  else if !file.stewardConfigurations.any (·.projectId == projectId) then (.error .notFound, file)
  else
    let sessionIds := assistantSessionIds projectId file
    match file.tasks.mapM (clearBrief projectId updatedAt) with
    | none => (.error .constraintViolation, file)
    | some tasks =>
      let next := (removeExactSessionDescriptors sessionIds
        { file with
          tasks := tasks
          stewardConfigurations := file.stewardConfigurations.filter (·.projectId != projectId)
          stewardConversationRefs := file.stewardConversationRefs.filter (·.projectId != projectId)
          taskArchiveSuspensions := file.taskArchiveSuspensions.filter fun suspension =>
            !sessionIds.contains suspension.sessionId
          sessionArchiveOperations := file.sessionArchiveOperations.filter fun operation =>
            !sessionIds.contains operation.sessionId }).2
      match validateStateFile next with
      | .error _ => (.error .constraintViolation, file)
      | .ok _ => commitFile persisted file next sessionIds

def taskIdsOf (projectId : String) (file : StateFile) : List String :=
  (file.tasks.filter (·.projectId == projectId)).map (·.id)

def projectHasWorktrees (projectId : String) (file : StateFile) : Bool :=
  let taskIds := taskIdsOf projectId file
  file.tasks.any (fun task => task.projectId == projectId && task.worktree.isSome)
    || file.provisioningOperations.any (fun operation => taskIds.contains operation.taskId)
    || file.managedWorktrees.any (fun proof => taskIds.contains proof.taskId)
    || file.cleanupOperations.any (fun operation => taskIds.contains operation.taskId)
    || file.repairOperations.any (fun operation => taskIds.contains operation.taskId)
    || file.staleResolutionOperations.any fun operation => taskIds.contains operation.taskId

def withoutProject (projectId : String) (file : StateFile) : StateFile :=
  let taskIds := taskIdsOf projectId file
  let sessionIds := (file.sessions.filter (·.projectId == projectId)).map (·.id)
  { file with
    projects := file.projects.eraseP (·.id == projectId)
    tasks := file.tasks.filter (·.projectId != projectId)
    taskArchiveOperations := file.taskArchiveOperations.filter fun operation =>
      !taskIds.contains operation.taskId
    taskArchiveSuspensions := file.taskArchiveSuspensions.filter fun suspension =>
      !sessionIds.contains suspension.sessionId
        && suspension.taskId.all fun taskId => !taskIds.contains taskId
    sessionArchiveOperations := file.sessionArchiveOperations.filter fun operation =>
      !sessionIds.contains operation.sessionId
    sessionRelocationOperations := file.sessionRelocationOperations.filter
      (·.projectId != projectId)
    sessionRelocationReceipts := file.sessionRelocationReceipts.filter (·.projectId != projectId)
    provisioningOperations := file.provisioningOperations.filter fun operation =>
      !taskIds.contains operation.taskId
    managedWorktrees := file.managedWorktrees.filter fun proof => !taskIds.contains proof.taskId
    cleanupOperations := file.cleanupOperations.filter fun operation =>
      !taskIds.contains operation.taskId
    cleanupReceipts := file.cleanupReceipts.filter fun receipt =>
      !taskIds.contains receipt.taskId
    repairOperations := file.repairOperations.filter fun operation =>
      !taskIds.contains operation.taskId
    repairReceipts := file.repairReceipts.filter fun receipt => !taskIds.contains receipt.taskId
    staleResolutionOperations := file.staleResolutionOperations.filter fun operation =>
      !taskIds.contains operation.taskId
    staleResolutionReceipts := file.staleResolutionReceipts.filter fun receipt =>
      !taskIds.contains receipt.taskId
    sessions := file.sessions.filter (·.projectId != projectId)
    deletedSessions := file.deletedSessions.filter (·.session.projectId != projectId)
    agentConversationReadiness := withoutReadiness sessionIds file.agentConversationReadiness
    stewardConfigurations := file.stewardConfigurations.filter (·.projectId != projectId)
    stewardConversationRefs := file.stewardConversationRefs.filter (·.projectId != projectId)
    runConfigurations := file.runConfigurations.filter (·.projectId != projectId)
    workflowExecutions := file.workflowExecutions.filter (·.projectId != projectId)
    runSetupMarks := file.runSetupMarks.filter (·.projectId != projectId) }

def deleteProjectAndRelatedRecords (projectId : String) (persisted : Bool) (file : StateFile) :
    FileAnswer ProjectRecord :=
  match file.project? projectId with
  | none => (.error .notFound, file)
  | some project =>
    if projectHasWorktrees projectId file then (.error .projectHasWorktrees, file)
    else commitFile persisted file (withoutProject projectId file) project

def journalHoldingTask (file : StateFile) (taskId : String) : Option String :=
  ((file.provisioningOperations.find? (·.taskId == taskId)).map (·.operationId)).or
    (((file.cleanupOperations.find? (·.taskId == taskId)).map (·.operationId)).or
    (((file.repairOperations.find? (·.taskId == taskId)).map (·.operationId)).or
    (((file.staleResolutionOperations.find? (·.taskId == taskId)).map (·.operationId)).or
    ((file.sessionRelocationOperations.find? (·.targetTaskId == taskId)).map (·.operationId)))))

def withoutTaskRecords (taskId : String) (file : StateFile) : StateFile :=
  { file with
    managedWorktrees := file.managedWorktrees.filter (·.taskId != taskId)
    cleanupReceipts := file.cleanupReceipts.filter (·.taskId != taskId)
    repairReceipts := file.repairReceipts.filter (·.taskId != taskId)
    staleResolutionReceipts := file.staleResolutionReceipts.filter (·.taskId != taskId)
    sessionRelocationReceipts := file.sessionRelocationReceipts.filter (·.targetTaskId != taskId)
    workflowExecutions := file.workflowExecutions.filter fun execution =>
      execution.taskId != some taskId }

def withoutTask (taskId : String) (parked : List String) (file : StateFile) : StateFile :=
  let removed := (removeExactSessionDescriptors parked
    { file with tasks := file.tasks.eraseP (·.id == taskId) }).2
  withoutTaskRecords taskId
    { removed with
      taskArchiveSuspensions := removed.taskArchiveSuspensions.filter fun suspension =>
        !parked.contains suspension.sessionId }

/-- Agents parked by closing the Task are reachable only through it. -/
def deleteTask (taskId : String) (persisted : Bool) (file : StateFile) : FileAnswer TaskRecord :=
  match file.task? taskId with
  | none => (.error .notFound, file)
  | some task =>
    match journalHoldingTask file taskId with
    | some operationId => (.error (.journalConflict operationId), file)
    | none =>
      let parked := (file.taskArchiveSuspensions.filter fun suspension =>
        suspension.taskId == some taskId && suspension.reason.parksClosedTask).map (·.sessionId)
      commitFile persisted file (withoutTask taskId parked file) task

def inCohort (taskId : String) (archivedAt : Nat) (suspension : TaskArchiveSuspension) : Bool :=
  suspension.taskId == some taskId
    && (suspension.archivedAt == archivedAt || suspension.reason == .closed)

def deleteArchivedTaskWithSessions (taskId : String) (archivedAt : Nat)
    (sessionIds : List String) (persisted : Bool) (file : StateFile) : FileAnswer TaskRecord :=
  match file.task? taskId with
  | none => (.error .notFound, file)
  | some task =>
    if task.archivedAt != some archivedAt
        || task.worktree.isSome
        || file.taskArchiveOperations.any (·.taskId == taskId)
        || (journalHoldingTask file taskId).isSome then (.error .constraintViolation, file)
    else
      let cohort := (file.taskArchiveSuspensions.filter (inCohort taskId archivedAt)).map
        (·.sessionId)
      if hasDuplicates sessionIds
          || !(sessionIds.all cohort.contains && cohort.all sessionIds.contains)
          || sessionIds.any (fun sessionId =>
            !file.sessions.any fun session =>
              session.id == sessionId && session.projectId == task.projectId) then
        (.error .constraintViolation, file)
      else
        let changed := withoutTask taskId sessionIds file
        commitFile persisted file
          { changed with
            sessionRelocationReceipts := changed.sessionRelocationReceipts.filter fun receipt =>
              !sessionIds.contains receipt.sessionId }
          task

end TermloopSessions
