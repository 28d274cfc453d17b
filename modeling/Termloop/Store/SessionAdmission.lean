import Termloop.Store.StateFile

/-!
How Sessions enter and leave the state file. A fresh Session is admitted with the
records its purpose calls for; descriptors are removed one by one, by an exact list
of ids, or by moving an Agent to the deleted ones, from where it can come back.
-/
namespace TermloopSessions
open TermloopRecordLists TermloopOutcome TermloopSaturating TermloopStore TermloopWorkflow

def stewardExecutorTemplate : String := "builtin.steward.executor"

/-- Whether a Steward held one of the Sessions, and the file in which none does. -/
def clearExecutorSessionReferences (sessionIds : List String) (file : StateFile) :
    Bool × StateFile :=
  let holds := fun configuration : StewardConfiguration =>
    configuration.executorSessionId.any sessionIds.contains
  (file.stewardConfigurations.any holds,
    { file with
      stewardConfigurations := file.stewardConfigurations.map fun configuration =>
        if holds configuration then { configuration with executorSessionId := none }
        else configuration })

def forgetAskToEach (sessionIds : List String) (sessions : List SessionRecord) :
    List SessionRecord :=
  sessionIds.foldl (fun sessions id => sessions.map (SessionRecord.forgetAskTo id)) sessions

def withoutReadiness (sessionIds : List String)
    (records : List AgentConversationReadinessRecord) : List AgentConversationReadinessRecord :=
  records.filter fun record => !sessionIds.contains record.sessionId

/-- Nothing else is touched where no descriptor has one of the ids. -/
def removeExactSessionDescriptors (removed : List String) (file : StateFile) :
    Bool × StateFile :=
  let kept := file.sessions.filter fun session => !removed.contains session.id
  if removed.isEmpty || kept.length == file.sessions.length then (false, file)
  else
    (true, { file with
      sessions := forgetAskToEach removed kept
      sessionRelocationReceipts := file.sessionRelocationReceipts.filter fun receipt =>
        !removed.contains receipt.sessionId
      sessionRelocationOperations := file.sessionRelocationOperations.filter fun operation =>
        !removed.contains operation.sessionId
      agentConversationReadiness := withoutReadiness removed file.agentConversationReadiness })

def executorSessionIds (file : StateFile) : List String :=
  file.stewardConfigurations.filterMap (·.executorSessionId)

/-- An ended executor that no Steward refers to any more. -/
def obsoleteAssistant (file : StateFile) (session : SessionRecord) : Bool :=
  session.kind == .agent
    && session.process.templateRef == some stewardExecutorTemplate
    && session.archivedAt.isNone
    && !(executorSessionIds file).contains session.id
    && !file.sessionArchiveOperations.any (·.sessionId == session.id)
    && endedLifecycle session
    && !(session.lifecycleState == "resumeFailed" && ownershipUncertain session)

def removeObsoleteAssistantSessions (file : StateFile) : Bool × StateFile :=
  removeExactSessionDescriptors
    ((file.sessions.filter (obsoleteAssistant file)).map (·.id)) file

inductive FreshSessionAdmission where
  | standalone (rememberLaunch : Bool)
  | personalAgent (agent : PersonalAgent) (rememberLaunch : Bool)
  | workflow (execution : WorkflowExecution)
  | steward (projectId : String) (generation updatedAt : Nat)

def listed (file : StateFile) (sessionId : String) : Bool :=
  file.sessions.any (·.id == sessionId)

def standalonePreference (file : StateFile) (session : SessionRecord) (rememberLaunch : Bool) :
    Except StoreError (Option SavedAgentLaunchSelection) :=
  if listed file session.id then .error .alreadyExists
  else if !rememberLaunch then .ok none
  else
    match session.process.agentId with
    | none => .error .constraintViolation
    | some agentId =>
      let preference : SavedAgentLaunchSelection :=
        { agentId := agentId, selection := session.launchSelection }
      if session.kind != .agent || !preference.isValid then .error .constraintViolation
      else .ok (some preference)

def personalAgentRefused (file : StateFile) (session : SessionRecord) (agent : PersonalAgent) :
    Bool :=
  !agent.isValid
    || file.sessionAgentProfiles.any (·.sessionId == session.id)
    || !sessionMatchesAgentProfile session agent
    || session.launchSelection.model != agent.selection.model
    || session.launchSelection.permission != agent.selection.permission
    || session.launchSelection.reasoning != agent.selection.reasoning
    || agent.selection.accountId.any (fun accountId =>
      session.launchSelection.accountId != some accountId)
    || (session.process.templateRef == some askToHelperTemplate
      && (session.askToSourceSessionId.isNone || session.askToContinuation.isNone))

def validateWorkflowCoordinatorSession (file : StateFile) (session : SessionRecord)
    (execution : WorkflowExecution) : Except StoreError SavedAgentLaunchSelection :=
  if session.kind != .agent
      || session.id != execution.coordinatorSessionId
      || session.projectId != execution.projectId
      || session.process.agentId != some execution.configuration.coordinatorAgentId
      || !execution.isValid
      || listed file session.id
      || file.workflowExecutions.any (fun current =>
        sharesScope current execution && current.phase != .completed) then
    .error .constraintViolation
  else if !(file.projects.any (·.id == execution.projectId)
      && execution.taskId.all fun taskId => file.tasks.any fun task =>
        task.id == taskId && task.projectId == execution.projectId) then
    .error .constraintViolation
  else
    match session.process.agentId with
    | none => .error .constraintViolation
    | some agentId =>
      let preference : SavedAgentLaunchSelection :=
        { agentId := agentId, selection := session.launchSelection }
      if preference.isValid then .ok preference else .error .constraintViolation

def validateStewardExecutorSession (file : StateFile) (session : SessionRecord)
    (projectId : String) (generation : Nat) : Except StoreError Unit :=
  if session.projectId != projectId || session.kind != .agent
      || session.lifecycleState != "running" || listed file session.id then
    .error .constraintViolation
  else
    match file.stewardConfigurations.find? (·.projectId == projectId) with
    | none => .error .notFound
    | some configuration =>
      if !configuration.enabled
          || configuration.generation != generation
          || configuration.executorSessionId.isSome
          || session.process.agentId != some configuration.agentId.name
          || session.resumeRef.any (fun conversation =>
            !conversation.validate
              || !providerMatchesAgent conversation.provider session.process.agentId) then
        .error .revisionConflict
      else .ok ()

def admissionPreference (file : StateFile) (session : SessionRecord) :
    FreshSessionAdmission → Except StoreError (Option SavedAgentLaunchSelection)
  | .standalone rememberLaunch => standalonePreference file session rememberLaunch
  | .personalAgent agent rememberLaunch =>
    if personalAgentRefused file session agent then .error .constraintViolation
    else standalonePreference file session rememberLaunch
  | .workflow execution => (validateWorkflowCoordinatorSession file session execution).map some
  | .steward projectId generation _ =>
    (validateStewardExecutorSession file session projectId generation).map fun _ => none

/-- The descriptor, its readiness record if it is an Agent, and the remembered choice. -/
def enterSession (session : SessionRecord) (preference : Option SavedAgentLaunchSelection)
    (file : StateFile) : StateFile :=
  { file with
    agentConversationReadiness :=
      if session.kind == .agent then
        file.agentConversationReadiness ++ [{ sessionId := session.id, readiness := .unconfirmed }]
      else file.agentConversationReadiness
    sessions := file.sessions ++ [session]
    lastAgentLaunchSelection := preference.or file.lastAgentLaunchSelection }

def applyAdmission (sessionId : String) : FreshSessionAdmission → StateFile → StateFile
  | .standalone _, file => file
  | .personalAgent agent _, file =>
    { file with
      sessionAgentProfiles :=
        file.sessionAgentProfiles ++ [{ sessionId := sessionId, agent := agent }] }
  | .workflow execution, file =>
    { file with
      workflowExecutions :=
        file.workflowExecutions.filter (fun current => !sharesScope current execution)
          ++ [execution] }
  | .steward projectId _ updatedAt, file =>
    (removeObsoleteAssistantSessions
      { file with
        stewardConversationRefs := file.stewardConversationRefs.filter (·.projectId != projectId)
        stewardConfigurations :=
          updateFirst (·.projectId == projectId)
            (fun configuration =>
              { configuration with executorSessionId := some sessionId, updatedAt := updatedAt })
            file.stewardConfigurations }).2

def admitFreshSession (session : SessionRecord) (admission : FreshSessionAdmission)
    (persisted : Bool) (file : StateFile) : FileAnswer Nat :=
  match admissionPreference file session admission with
  | .error error => (.error error, file)
  | .ok preference =>
    let changed := applyAdmission session.id admission (enterSession session preference file)
    commitFile persisted file changed (changed.revision + 1)

/-- The oldest marks of the Project go until there is room. Passes are bounded by the marks.
    -/
def makeRoom (projectId : String) : Nat → List RunSetupMark → List RunSetupMark
  | 0, marks => marks
  | passes + 1, marks =>
    let own := marks.filter (·.projectId == projectId)
    if own.length < runSetupMarksMax then marks
    else
      match firstLeast (fun a b => decide (a.completedAt < b.completedAt)) own with
      | none => marks
      | some oldest => makeRoom projectId passes (marks.erase oldest)

def replaceBoundedSetupMark (mark : RunSetupMark) (marks : List RunSetupMark) :
    List RunSetupMark :=
  let others := marks.filter fun current =>
    !(current.configurationId == mark.configurationId
      && current.worktreePath == mark.worktreePath)
  makeRoom mark.projectId others.length others ++ [mark]

def insertRunSession (session : SessionRecord) (setupMark : Option RunSetupMark)
    (persisted : Bool) (file : StateFile) : FileAnswer Nat :=
  match session.runConfigurationId with
  | none => (.error .constraintViolation, file)
  | some configurationId =>
    if session.kind != .terminal
        || listed file session.id
        || !file.runConfigurations.any (fun configuration =>
          configuration.id == configurationId && configuration.projectId == session.projectId)
        || setupMark.any (fun mark =>
          !mark.isValid || mark.projectId != session.projectId
            || mark.configurationId != configurationId) then (.error .constraintViolation, file)
    else
      commitFile persisted file
        { file with
          sessions := file.sessions ++ [session]
          runSetupMarks :=
            match setupMark with
            | some mark => replaceBoundedSetupMark mark file.runSetupMarks
            | none => file.runSetupMarks }
        (file.revision + 1)

def dropDescriptor (sessionId : String) (file : StateFile) : StateFile :=
  { file with
    sessions := file.sessions.eraseP (·.id == sessionId)
    agentConversationReadiness := withoutReadiness [sessionId] file.agentConversationReadiness }

def withoutAskTo (sessionId : String) (file : StateFile) : StateFile :=
  { file with sessions := file.sessions.map (SessionRecord.forgetAskTo sessionId) }

def rollbackAssistantLaunch (sessionId : String) (persisted : Bool) (file : StateFile) :
    FileAnswer Nat :=
  match file.session? sessionId with
  | none => (.error .notFound, file)
  | some session =>
    let own := fun configuration : StewardConfiguration =>
      configuration.projectId == session.projectId
        && configuration.executorSessionId == some sessionId
    if !(executorSessionIds file).contains sessionId || !file.stewardConfigurations.any own then
      (.error .constraintViolation, file)
    else
      commitFile persisted file
        (dropDescriptor sessionId
          { file with
            stewardConfigurations := updateFirst own
              (fun configuration => { configuration with executorSessionId := none })
              file.stewardConfigurations })
        (file.revision + 1)

def archiveJournalHoldingSession (file : StateFile) (sessionId : String) : Option String :=
  ((file.sessionArchiveOperations.find? (·.sessionId == sessionId)).map (·.operationId)).or
    ((file.taskArchiveOperations.find? fun operation =>
      operation.targets.any (·.sessionId == sessionId)).map (·.operationId))

def deleteSessionDescriptor (sessionId : String) (persisted : Bool) (file : StateFile) :
    FileAnswer SessionRecord :=
  match file.session? sessionId with
  | none => (.error .notFound, file)
  | some session =>
    if !endedLifecycle session || ownershipUncertain session then
      (.error .sessionNotClosable, file)
    else
      match archiveJournalHoldingSession file sessionId with
      | some operationId => (.error (.journalConflict operationId), file)
      | none =>
        let cleared :=
          withoutAskTo sessionId (clearExecutorSessionReferences [sessionId] file).2
        commitFile persisted file
          (dropDescriptor sessionId
            { cleared with
              sessionRelocationReceipts := file.sessionRelocationReceipts.filter
                (·.sessionId != sessionId) })
          (session.forgetAskTo sessionId)

def deleteArchivedSessionDescriptor (sessionId : String) (persisted : Bool) (file : StateFile) :
    FileAnswer SessionRecord :=
  match file.sessionArchiveOperations.find? (·.sessionId == sessionId) with
  | some operation => (.error (.journalConflict operation.operationId), file)
  | none =>
    match file.session? sessionId with
    | none => (.error .notFound, file)
    | some session =>
      if session.archivedAt.isNone then (.error .sessionNotClosable, file)
      else
        commitFile persisted file
          (dropDescriptor sessionId
            (withoutAskTo sessionId (clearExecutorSessionReferences [sessionId] file).2))
          (session.forgetAskTo sessionId)

def moveAgentSessionToDeleted (sessionId : String) (deletedAt : Nat) (persisted : Bool)
    (file : StateFile) : FileAnswer DeletedSessionRecord :=
  if deletedAt == 0
      || file.deletedSessions.any (·.session.id == sessionId) then
    (.error .constraintViolation, file)
  else
    match file.session? sessionId with
    | none => (.error .notFound, file)
    | some session =>
      if session.kind != .agent || session.archivedAt.isSome || !endedLifecycle session
          || ownershipUncertain session then (.error .sessionNotClosable, file)
      else
        match archiveJournalHoldingSession file sessionId with
        | some operationId => (.error (.journalConflict operationId), file)
        | none =>
          match file.agentConversationReadiness.find? (·.sessionId == sessionId) with
          | none => (.error .constraintViolation, file)
          | some record =>
            let deleted : DeletedSessionRecord :=
              { session := { session with askToContinuation := none }, deletedAt := deletedAt
                conversationReadiness := record.readiness }
            let cleared :=
              withoutAskTo sessionId (clearExecutorSessionReferences [sessionId] file).2
            commitFile persisted file
              { cleared with
                sessions := cleared.sessions.eraseP (·.id == sessionId)
                agentConversationReadiness := file.agentConversationReadiness.eraseP
                  (·.sessionId == sessionId)
                sessionRelocationReceipts := file.sessionRelocationReceipts.filter
                  (·.sessionId != sessionId)
                sessionRelocationOperations :=
                  file.sessionRelocationOperations.filter (·.sessionId != sessionId)
                deletedSessions := file.deletedSessions ++ [deleted] }
              deleted

def returned (cwd : String) (guard : Option ResumeLaunchGuard) (session : SessionRecord) :
    SessionRecord :=
  { session.exited with
    resumeLaunchGuard := guard, askToContinuation := none
    process := { session.process with cwd := cwd } }

def restoreDeletedSessionDescriptor (sessionId : String) (relocatedCwd : Option String)
    (persisted : Bool) (file : StateFile) : FileAnswer SessionRecord :=
  if listed file sessionId then (.error .alreadyExists, file)
  else
    match file.deletedSessions.find? (·.session.id == sessionId) with
    | none => (.error .notFound, file)
    | some deleted =>
      let cwd := relocatedCwd.getD deleted.session.process.cwd
      let session := returned cwd (currentWorktreeGuard file.toCurrentState cwd) deleted.session
      commitFile persisted file
        { file with
          deletedSessions := file.deletedSessions.eraseP (·.session.id == sessionId)
          agentConversationReadiness := file.agentConversationReadiness ++
            [{ sessionId := session.id, readiness := deleted.conversationReadiness }]
          sessions := file.sessions ++ [session] }
        session

def purgeExpiredDeletedSessions (now : Nat) (persisted : Bool) (file : StateFile) :
    FileAnswer Nat :=
  let kept := file.deletedSessions.filter fun deleted => decide (now < deleted.purgeAt)
  let purged := file.deletedSessions.length - kept.length
  if purged = 0 then (.ok purged, { file with deletedSessions := kept })
  else commitFile persisted file { file with deletedSessions := kept } purged

theorem commitFile_records (same : edited.toCurrentState = records) (ans : α) (other : β) :
    (commitFile saves file edited ans).2.toCurrentState =
      (commitOrRestore saves file.toCurrentState records other).2 := by
  cases saves with
  | false => rfl
  | true => exact same ▸ rfl

theorem admit_standalone_records :
    (admitFreshSession sess (.standalone false) saves file).2.toCurrentState =
      (insertSession sess saves file.toCurrentState).2 := by
  have preference : admissionPreference file sess (.standalone false) =
      if listed file sess.id then .error .alreadyExists else .ok none := by
    simp [admissionPreference, standalonePreference]
  rw [admitFreshSession, preference, insertSession]
  by_cases known : listed file sess.id
  · have same : (file.sessions.any (·.id == sess.id)) := known
    rw [if_pos known, if_pos same]
  · have same : ¬ (file.sessions.any (·.id == sess.id)) := known
    rw [if_neg known, if_neg same]
    apply commitFile_records
    cases kind : sess.kind <;> simp [applyAdmission, enterSession, kind]

theorem deleteArchived_records : (deleteArchivedSessionDescriptor sid saves file).2.toCurrentState =
      (TermloopStore.deleteArchivedSessionDescriptor sid saves file.toCurrentState).2 := by
  unfold deleteArchivedSessionDescriptor TermloopStore.deleteArchivedSessionDescriptor
  cases file.sessionArchiveOperations.find? (·.sessionId == sid) with
  | some op => rfl
  | none =>
    cases file.session? sid with
    | none => rfl
    | some sess =>
      by_cases live : sess.archivedAt.isNone
      · simp only [live, if_true]
      simp only [live]
      apply commitFile_records
      simp [dropDescriptor, withoutAskTo, clearExecutorSessionReferences, withoutReadiness, bne,
        beq_eq_decide]

end TermloopSessions
