import Termloop.Store.Records

/-!
The load-time validator over the modelled records. The Boolean checks follow the
file's own scans, first match and all; beside them stands what an accepted file
means, record by record, and the equivalences that connect the two.
-/
namespace TermloopStore
open TermloopRecordLists TermloopOutcome TermloopText List

def validId (value : String) : Bool :=
  !value.isEmpty && value.utf8ByteSize ≤ 128 && !value.toList.any isControl

def AskToContinuation.isWellFormed (continuation : AskToContinuation) : Bool :=
  validId continuation.conversationId
    && continuation.currentRequestId.all validId

def askToHelperTemplate : String := "builtin.agent.ask-to-helper"

def invalidAskToSource (sessions : List SessionRecord) (session : SessionRecord) : Bool :=
  session.askToSourceSessionId.any fun sourceId =>
    sourceId.isEmpty
      || session.kind != .agent
      || sourceId == session.id
      || session.process.templateRef != some askToHelperTemplate
      || (sessions.find? (·.id == sourceId)).any fun source =>
        source.kind != .agent || source.projectId != session.projectId

def invalidAskToContinuation (sessions : List SessionRecord) (session : SessionRecord)
    (later : List SessionRecord) : Bool :=
  session.askToContinuation.any fun continuation =>
    !continuation.isWellFormed
      || session.askToSourceSessionId.isNone
      || !sessions.any (fun source =>
        session.askToSourceSessionId == some source.id
          && source.kind == .agent && source.projectId == session.projectId)
      || later.any (fun candidate =>
        candidate.askToContinuation.any (·.conversationId == continuation.conversationId))
      || (continuation.currentRequestId.isSome
        && later.any fun candidate =>
          candidate.askToSourceSessionId == session.askToSourceSessionId
            && candidate.askToContinuation.any (·.currentRequestId.isSome))

def sessionsAreInvalid (sessions : List SessionRecord) : Bool :=
  anyWithLater (fun session later =>
    (session.kind == .agent && session.process.agentId.isNone)
      || invalidAskToSource sessions session
      || invalidAskToContinuation sessions session later) sessions

def agentConversationReadinessIsInvalid (state : CurrentState) : Bool :=
  state.agentConversationReadiness.length
      != (state.sessions.filter (·.kind == .agent)).length
    || anyWithLater (fun record later =>
      record.sessionId.isEmpty
        || !state.sessions.any (fun session =>
          session.id == record.sessionId && session.kind == .agent)
        || later.any (·.sessionId == record.sessionId))
      state.agentConversationReadiness

def invalidSessionArchiveOperation (state : CurrentState) : Bool :=
  anyWithLater (fun operation later =>
    operation.operationId.isEmpty
      || operation.requestedAt == 0
      || (state.session? operation.sessionId).all (fun session =>
        session.projectId != operation.projectId
          || session.kind != .agent
          || session.runtimeEpoch != operation.runtimeEpoch
          || session.archivedAt.isSome)
      || later.any fun candidate =>
        candidate.sessionId == operation.sessionId
          || candidate.operationId == operation.operationId)
    state.sessionArchiveOperations

def invalidArchiveTargets (state : CurrentState) (operation : TaskArchiveOperation) : Bool :=
  anyWithLater (fun target later =>
    state.taskArchiveSuspensions.any (·.sessionId == target.sessionId)
      || !state.sessions.any (fun session =>
        session.id == target.sessionId
          && session.projectId == operation.projectId
          && session.runtimeEpoch == target.runtimeEpoch)
      || later.any (·.sessionId == target.sessionId))
    operation.targets

def invalidTaskArchiveOperation (state : CurrentState) : Bool :=
  anyWithLater (fun operation later =>
    (state.task? operation.taskId).all (fun task =>
        task.archivedAt.isSome
          || task.projectId != operation.projectId
          || task.worktree.map (·.path) != operation.worktreePath
          || task.worktreeGeneration != operation.worktreeGeneration)
      || operation.operationId.isEmpty
      || later.any (fun candidate =>
        candidate.taskId == operation.taskId || candidate.operationId == operation.operationId)
      || invalidArchiveTargets state operation)
    state.taskArchiveOperations

/-- The Task a suspension may be parked with, by the reason it is parked for. -/
def acceptsSuspension (task : TaskRecord) (suspension : TaskArchiveSuspension) : Bool :=
  suspension.taskId.all (fun taskId => taskId == task.id)
    && match suspension.reason with
      | .archived => task.archivedAt == some suspension.archivedAt
      | .closedWorktreeRemoved =>
        suspension.taskId == some task.id
          && task.archivedAt.isNone && task.status == .closed && task.worktree.isNone
      | .closed => suspension.taskId == some task.id && task.status == .closed

def invalidSuspension (state : CurrentState) : Bool :=
  anyWithLater (fun suspension later =>
    (state.session? suspension.sessionId).all (fun session =>
        !state.tasks.any fun task =>
          task.projectId == session.projectId && acceptsSuspension task suspension)
      || later.any (·.sessionId == suspension.sessionId))
    state.taskArchiveSuspensions

def archiveRecordsAreInvalid (state : CurrentState) : Bool :=
  invalidSessionArchiveOperation state
    || invalidTaskArchiveOperation state
    || invalidSuspension state

/-- The check on one relocation, given the Session and the Task it found. -/
def relocationCheckFails (state : CurrentState) (operation : SessionRelocationOperation)
    (session : Option SessionRecord) (task : Option TaskRecord) : Bool :=
  let proof := state.managedWorktrees.find? (·.taskId == operation.targetTaskId)
  operation.operationId.isEmpty
    || decide (operation.operationId.utf8ByteSize > 64)
    || operation.startedAt == 0
    || decide (operation.updatedAt < operation.startedAt)
    || operation.targetCwd == operation.sourceCwd
    || session.all (fun session =>
      session.kind != .agent
        || session.projectId != operation.projectId
        || session.runtimeEpoch != operation.sourceRuntimeEpoch
        || session.process.cwd != operation.sourceCwd
        || session.lifecycleState != "resuming"
        || session.archivedAt.isSome
        || session.resumeRef.all fun value => !value.validate)
    || (state.project? operation.projectId).all (fun project =>
      operation.target == .projectRoot && project.folderPath != operation.targetCwd)
    || task.all (fun task =>
      task.projectId != operation.projectId
        || (operation.target == .taskWorktree && task.status != .opened)
        || task.archivedAt.isSome
        || task.worktreeGeneration != operation.targetWorktreeGeneration
        || task.worktree.all fun binding =>
          (operation.target == .taskWorktree && binding.path != operation.targetCwd)
            || (operation.target == .projectRoot && binding.path != operation.sourceCwd
              && session.all fun session => session.resumeLaunchGuard.all fun guard =>
                guard.taskId != task.id || guard.path != binding.path))
    || proof.all (fun proof =>
      proof.operationId != operation.targetManagedWorktreeOperationId
        || proof.worktreeGeneration != operation.targetWorktreeGeneration
        || task.all fun task => task.worktree.all fun binding =>
          proof.registeredWorktreePath != binding.path)
    || state.sessionArchiveOperations.any (·.sessionId == operation.sessionId)
    || state.taskArchiveOperations.any (·.taskId == operation.targetTaskId)
    || state.provisioningOperations.any (·.taskId == operation.targetTaskId)
    || state.cleanupOperations.any (·.taskId == operation.targetTaskId)
    || state.repairOperations.any (·.taskId == operation.targetTaskId)
    || state.staleResolutionOperations.any (·.taskId == operation.targetTaskId)

def relocationOperationIsInvalid (state : CurrentState)
    (operation : SessionRelocationOperation) : Bool :=
  relocationCheckFails state operation (state.session? operation.sessionId)
    (state.task? operation.targetTaskId)

def invalidRelocationOperation (state : CurrentState) : Bool :=
  anyWithLater (fun operation later =>
    relocationOperationIsInvalid state operation
      || later.any fun candidate =>
        candidate.sessionId == operation.sessionId
          || candidate.operationId == operation.operationId)
    state.sessionRelocationOperations

/-- The directory and launch guard that a receipt's target kind asks for. -/
def receiptPlaceIsInvalid (projects : List ProjectRecord) (receipt : SessionRelocationReceipt)
    (cwd : String) (guard : Option ResumeLaunchGuard) : Bool :=
  cwd != receipt.targetCwd
    || match receipt.target with
      | .taskWorktree => guard.all fun guard =>
        guard.taskId != receipt.targetTaskId
          || guard.managedWorktreeOperationId != receipt.targetManagedWorktreeOperationId
          || guard.worktreeGeneration != receipt.targetWorktreeGeneration
          || guard.path != receipt.targetCwd
      | .projectRoot =>
        guard.isSome || projects.all fun project =>
          project.id != receipt.projectId || project.folderPath != receipt.targetCwd

def invalidRelocationReceipt (state : CurrentState) : Bool :=
  anyWithLater (fun receipt later =>
    receipt.operationId.isEmpty
      || decide (receipt.operationId.utf8ByteSize > 64)
      || receipt.runtimeEpoch == 0
      || (state.session? receipt.sessionId).all (fun session =>
        session.kind != .agent
          || session.projectId != receipt.projectId
          || session.runtimeEpoch != receipt.runtimeEpoch
          || receiptPlaceIsInvalid state.projects receipt session.process.cwd
            session.resumeLaunchGuard)
      || later.any (fun candidate =>
        candidate.sessionId == receipt.sessionId || candidate.operationId == receipt.operationId)
      || state.sessionRelocationOperations.any fun operation =>
        operation.sessionId == receipt.sessionId || operation.operationId == receipt.operationId)
    state.sessionRelocationReceipts

def relocationRecordsAreInvalid (state : CurrentState) : Bool :=
  invalidRelocationOperation state || invalidRelocationReceipt state

def ensureStaleResolutionTuple (state : CurrentState)
    (operation : WorktreeStaleResolutionOperation) : Except StoreError Unit :=
  match state.task? operation.taskId with
  | none => .error .notFound
  | some task =>
    let proof := state.managedWorktrees.find? (·.taskId == operation.taskId)
    let matching := task.worktreeGeneration == operation.worktreeGeneration
      && task.worktree.any (·.path == operation.targetPath)
      && match operation.managedWorktreeOperationId, proof with
        | some expected, some proof =>
          decide (operation.worktreeGeneration > 0)
            && proof.worktreeGeneration == operation.worktreeGeneration
            && proof.operationId == expected
            && proof.registeredWorktreePath == operation.targetPath
        | none, none => operation.worktreeGeneration == 0 && task.branch.isSome
        | _, _ => false
    if matching then .ok () else .error (.managedWorktreeProofChanged operation.taskId)

def ensureRepairTuple (state : CurrentState) (operation : WorktreeRepairOperation) :
    Except StoreError Unit :=
  match state.task? operation.taskId with
  | none => .error .notFound
  | some task =>
    match state.managedWorktrees.find? (·.taskId == operation.taskId) with
    | none => .error (.managedWorktreeProofChanged operation.taskId)
    | some proof =>
      match task.worktree with
      | none => .error (.managedWorktreeProofChanged operation.taskId)
      | some binding =>
        if task.worktreeGeneration != operation.expectedWorktreeGeneration
            || proof.worktreeGeneration != operation.expectedWorktreeGeneration
            || proof.operationId != operation.managedWorktreeOperationId
            || binding.path != proof.registeredWorktreePath then
          .error (.managedWorktreeProofChanged operation.taskId)
        else .ok ()

def hasDuplicates {α : Type} [BEq α] (values : List α) : Bool :=
  anyWithLater (fun value later => later.any fun candidate => candidate == value) values

def validBlockers {α : Type} [BEq α] (blockers : List α) : Bool :=
  blockers.length ≤ 32 && !hasDuplicates blockers

/-- Content that a discard may be told to throw away. -/
def WorktreeCleanupBlocker.eligible : WorktreeCleanupBlocker → Bool
  | .trackedChanges | .stagedChanges | .untrackedContent | .ignoredContent
  | .submodulePresent => true
  | _ => false

/-- `windows(2)`: neighbours stand in the canonical order. -/
def canonicalBlockers : List WorktreeCleanupBlocker → Bool
  | first :: second :: rest =>
    decide (first.ctorIdx < second.ctorIdx) && canonicalBlockers (second :: rest)
  | _ => true

def validateCleanupIntent (mode : WorktreeCleanupMode) (blockers : List WorktreeCleanupBlocker) :
    Bool :=
  match mode with
  | .safe => blockers.isEmpty
  | .discardCheckoutContent =>
    !blockers.isEmpty && blockers.length ≤ 5 && canonicalBlockers blockers
      && blockers.all WorktreeCleanupBlocker.eligible

def worktreeRecordsAreInvalid (state : CurrentState) : Bool :=
  state.tasks.any (fun task => task.worktree.isSome && task.branch.isNone)
    || hasDuplicates (state.cleanupOperations.map (·.taskId))
    || hasDuplicates (state.cleanupReceipts.map (·.taskId))
    || hasDuplicates (state.staleResolutionOperations.map (·.taskId))
    || hasDuplicates (state.staleResolutionReceipts.map (·.taskId))
    || hasDuplicates (state.repairOperations.map (·.taskId))
    || hasDuplicates (state.repairReceipts.map (·.taskId))
    || state.repairOperations.any (fun repair =>
      state.cleanupOperations.any (·.taskId == repair.taskId)
        || state.provisioningOperations.any (·.taskId == repair.taskId))
    || state.cleanupOperations.any (fun cleanup =>
      state.provisioningOperations.any (·.taskId == cleanup.taskId))
    || state.staleResolutionOperations.any (fun stale =>
      state.provisioningOperations.any (·.taskId == stale.taskId)
        || state.cleanupOperations.any (·.taskId == stale.taskId)
        || state.repairOperations.any (·.taskId == stale.taskId))
    || state.cleanupOperations.any (fun operation =>
      !validateCleanupIntent operation.cleanupMode operation.acknowledgedContentBlockers)
    || state.cleanupReceipts.any (fun receipt =>
      !validateCleanupIntent receipt.cleanupMode receipt.acknowledgedContentBlockers)
    || state.cleanupOperations.any (fun operation =>
      operation.failure.any fun failure => !validBlockers failure.blockers)
    || state.repairOperations.any (fun operation =>
      operation.failure.any fun failure => !validBlockers failure.blockers)
    || state.repairOperations.any (fun operation => !(ensureRepairTuple state operation).toBool)
    || state.staleResolutionOperations.any fun operation =>
      !(ensureStaleResolutionTuple state operation).toBool
        || operation.failure.any fun failure => !validBlockers failure.blockers

def validateCurrentState (state : CurrentState) : Except StoreError Unit :=
  if sessionsAreInvalid state.sessions
      || agentConversationReadinessIsInvalid state
      || archiveRecordsAreInvalid state
      || relocationRecordsAreInvalid state
      || worktreeRecordsAreInvalid state then .error .corruptRecord
  else .ok ()

def Accepted (state : CurrentState) : Prop := validateCurrentState state = .ok ()

theorem accepted_iff (st : CurrentState) : Accepted st ↔ sessionsAreInvalid st.sessions = false
      ∧ agentConversationReadinessIsInvalid st = false
      ∧ archiveRecordsAreInvalid st = false
      ∧ relocationRecordsAreInvalid st = false
      ∧ worktreeRecordsAreInvalid st = false := by
  simp [Accepted, validateCurrentState, and_assoc]

def CurrentState.projectOf (state : CurrentState) (sessionId : String) : Option String :=
  (state.session? sessionId).map (·.projectId)

/-- An archived Task carries the suspension's time, a removed checkout leaves its Task
    closed, unarchived and without a worktree, a close leaves it closed. -/
def Follows (task : TaskRecord) (suspension : TaskArchiveSuspension) : Prop :=
  (suspension.taskId = none ∨ suspension.taskId = some task.id) ∧
    match suspension.reason with
    | .archived => task.archivedAt = some suspension.archivedAt
    | .closedWorktreeRemoved =>
      suspension.taskId = some task.id ∧ task.archivedAt = none ∧ task.status = .closed
        ∧ task.worktree = none
    | .closed => suspension.taskId = some task.id ∧ task.status = .closed

/-- The Session is there, with a Task of its Project that follows the reason's rule. -/
def Parked (state : CurrentState) (suspension : TaskArchiveSuspension) : Prop :=
  ∃ task ∈ state.tasks,
    state.projectOf suspension.sessionId = some task.projectId ∧ Follows task suspension

theorem acceptsSuspension_iff : acceptsSuspension task susp ↔ Follows task susp := by
  obtain ⟨tid,_,_,_,_,reason⟩ := susp
  cases tid with
  | none => cases reason <;> simp [acceptsSuspension, Follows]
  | some id => cases reason <;> simp [acceptsSuspension, Follows, and_assoc]

theorem suspension_parked_iff : ((st.session? susp.sessionId).all fun sess =>
        !st.tasks.any fun task =>
          task.projectId == sess.projectId && acceptsSuspension task susp) = false ↔
      Parked st susp := by
  simp only [Option.all_eq_false, Bool.not_eq_false', any_eq_true, Bool.and_eq_true,
    beq_iff_eq, acceptsSuspension_iff, Parked, CurrentState.projectOf, Option.map_eq_some_iff]
  constructor
  · rintro ⟨sess,hit,task,here,same,follows⟩
    exact ⟨task,here,⟨sess,hit,same.symm⟩,follows⟩
  · rintro ⟨task,here,⟨sess,hit,same⟩,follows⟩
    exact ⟨sess,hit,task,here,same.symm,follows⟩

theorem invalidSuspension_eq_false (st : CurrentState) : invalidSuspension st = false ↔
      (∀ susp ∈ st.taskArchiveSuspensions, Parked st susp) ∧
      st.taskArchiveSuspensions.Pairwise fun a b => b.sessionId ≠ a.sessionId := by
  apply anyWithLater_eq_false
  intro susp later
  rw [Bool.or_eq_false_iff, suspension_parked_iff]
  simp

structure ArchivesOwnTask (state : CurrentState) (operation : TaskArchiveOperation)
    (task : TaskRecord) : Prop where
  found : state.task? operation.taskId = some task
  unarchived : task.archivedAt = none
  project : task.projectId = operation.projectId
  path : task.worktree.map (·.path) = operation.worktreePath
  generation : task.worktreeGeneration = operation.worktreeGeneration

/-- A Session about to be parked: live in the Project under the previewed epoch. -/
structure TargetReady (state : CurrentState) (operation : TaskArchiveOperation)
    (target : TaskArchiveTarget) : Prop where
  unparked : ∀ suspension ∈ state.taskArchiveSuspensions,
    suspension.sessionId ≠ target.sessionId
  session : ∃ session ∈ state.sessions, session.id = target.sessionId
    ∧ session.projectId = operation.projectId ∧ session.runtimeEpoch = target.runtimeEpoch

structure TaskOperationLawful (state : CurrentState) (operation : TaskArchiveOperation) :
    Prop where
  task : ∃ task, ArchivesOwnTask state operation task
  named : operation.operationId.isEmpty = false
  targets : ∀ target ∈ operation.targets, TargetReady state operation target
  distinct : operation.targets.Pairwise fun a b => b.sessionId ≠ a.sessionId

theorem invalidArchiveTargets_eq_false : invalidArchiveTargets st op = false ↔
      (∀ target ∈ op.targets, TargetReady st op target) ∧
      op.targets.Pairwise fun a b => b.sessionId ≠ a.sessionId := by
  apply anyWithLater_eq_false
  intro target later
  simp only [Bool.or_eq_false_iff, Bool.not_eq_false', any_eq_false, any_eq_true,
    Bool.and_eq_true, beq_iff_eq, and_assoc]
  constructor
  · rintro ⟨unparked,sess,apart⟩
    exact ⟨⟨unparked,sess⟩,apart⟩
  · rintro ⟨ready,apart⟩
    exact ⟨ready.unparked,ready.session,apart⟩

theorem ownTask_iff : ((st.task? op.taskId).all fun task =>
        task.archivedAt.isSome
          || task.projectId != op.projectId
          || task.worktree.map (·.path) != op.worktreePath
          || task.worktreeGeneration != op.worktreeGeneration) = false ↔
      ∃ task, ArchivesOwnTask st op task := by
  simp only [Option.all_eq_false, Bool.or_eq_false_iff, bne_eq_false_iff_eq,
    Option.isSome_eq_false_iff, Option.isNone_iff_eq_none]
  constructor
  · rintro ⟨task,hit,⟨⟨unarchived,project⟩,path⟩,gen⟩
    exact ⟨task,hit,unarchived,project,path,gen⟩
  · rintro ⟨task,own⟩
    exact ⟨task,own.found,⟨⟨own.unarchived,own.project⟩,own.path⟩,own.generation⟩

theorem invalidTaskArchiveOperation_eq_false (st : CurrentState) :
    invalidTaskArchiveOperation st = false ↔
      (∀ op ∈ st.taskArchiveOperations, TaskOperationLawful st op) ∧
      st.taskArchiveOperations.Pairwise fun a b =>
        b.taskId ≠ a.taskId ∧ b.operationId ≠ a.operationId := by
  apply anyWithLater_eq_false
  intro op later
  simp only [Bool.or_eq_false_iff, ownTask_iff, invalidArchiveTargets_eq_false,
    any_eq_false, beq_iff_eq, Bool.or_eq_true, not_or]
  constructor
  · rintro ⟨⟨⟨task,named⟩,apart⟩,targets,nodup⟩
    exact ⟨⟨task,named,targets,nodup⟩,apart⟩
  · rintro ⟨lawful,apart⟩
    exact ⟨⟨⟨lawful.task,lawful.named⟩,apart⟩,lawful.targets,lawful.distinct⟩

/-- What an accepted relocation says about its id, its Session and its Task. -/
structure RelocationPending (state : CurrentState) (operation : SessionRelocationOperation) :
    Prop where
  named : operation.operationId.isEmpty = false
  short : operation.operationId.utf8ByteSize ≤ 64
  session : ∃ session, state.session? operation.sessionId = some session
    ∧ session.kind = .agent ∧ session.archivedAt = none
  task : ∃ task, state.task? operation.targetTaskId = some task ∧ task.archivedAt = none
  unarchiving : ∀ archive ∈ state.sessionArchiveOperations,
    archive.sessionId ≠ operation.sessionId

theorem relocationPending_of_valid (valid : relocationOperationIsInvalid st op = false) :
    RelocationPending st op := by
  simp only [relocationOperationIsInvalid, relocationCheckFails, Bool.or_eq_false_iff,
    Option.all_eq_false, bne_eq_false_iff_eq, Option.isSome_eq_false_iff,
    Option.isNone_iff_eq_none, any_eq_false, beq_iff_eq, decide_eq_false_iff_not,
    Nat.not_lt] at valid
  obtain ⟨⟨⟨⟨⟨⟨⟨⟨⟨⟨⟨⟨⟨⟨named,short⟩,-⟩,-⟩,-⟩,sess⟩,-⟩,task⟩,-⟩,archiving⟩,-⟩,-⟩, -⟩,-⟩,-⟩ := valid
  obtain ⟨sess,hit,⟨⟨⟨⟨⟨⟨agent,-⟩,-⟩,-⟩,-⟩,unarchived⟩,-⟩⟩ := sess
  obtain ⟨task,own,⟨⟨⟨⟨-,-⟩,standing⟩,-⟩,-⟩⟩ := task
  exact ⟨named,short,⟨sess,hit,agent,unarchived⟩,⟨task,own,standing⟩,archiving⟩

theorem invalidRelocationOperation_eq_false (st : CurrentState) :
    invalidRelocationOperation st = false ↔
      (∀ op ∈ st.sessionRelocationOperations, relocationOperationIsInvalid st op = false) ∧
      st.sessionRelocationOperations.Pairwise fun a b =>
        b.sessionId ≠ a.sessionId ∧ b.operationId ≠ a.operationId := by
  apply anyWithLater_eq_false
  intro op later
  simp

/-- The exact managed checkout for a Task worktree, and no guard at the Project's root. -/
def FitsPlace (projects : List ProjectRecord) (receipt : SessionRelocationReceipt)
    (cwd : String) (guard : Option ResumeLaunchGuard) : Prop :=
  cwd = receipt.targetCwd ∧
    match receipt.target with
    | .taskWorktree => guard = some
        { taskId := receipt.targetTaskId
          managedWorktreeOperationId := receipt.targetManagedWorktreeOperationId
          worktreeGeneration := receipt.targetWorktreeGeneration, path := receipt.targetCwd }
    | .projectRoot => guard = none ∧ ∃ project ∈ projects,
        project.id = receipt.projectId ∧ project.folderPath = receipt.targetCwd

theorem receiptPlaceIsInvalid_eq_false (projects : List ProjectRecord)
    (receipt : SessionRelocationReceipt) (cwd : String) (guard : Option ResumeLaunchGuard) :
    receiptPlaceIsInvalid projects receipt cwd guard = false ↔
      FitsPlace projects receipt cwd guard := by
  rw [receiptPlaceIsInvalid, FitsPlace, Bool.or_eq_false_iff, bne_eq_false_iff_eq]
  cases receipt.target with
  | taskWorktree =>
    simp only [Option.all_eq_false, Bool.or_eq_false_iff, bne_eq_false_iff_eq, and_assoc]
    constructor
    · rintro ⟨place,hit,isGuard,task,op,gen,path⟩
      cases hit
      cases task
      cases op
      cases gen
      cases path
      exact ⟨place,isGuard⟩
    · rintro ⟨place,isGuard⟩
      exact ⟨place,_,isGuard,rfl,rfl,rfl,rfl⟩
  | projectRoot => simp

/-- A receipt describes its Session as it now stands. -/
structure Describes (state : CurrentState) (receipt : SessionRelocationReceipt) : Prop where
  named : receipt.operationId.isEmpty = false
  short : receipt.operationId.utf8ByteSize ≤ 64
  live : receipt.runtimeEpoch ≠ 0
  session : ∃ session, state.session? receipt.sessionId = some session
    ∧ session.kind = .agent ∧ session.projectId = receipt.projectId
    ∧ session.runtimeEpoch = receipt.runtimeEpoch
    ∧ FitsPlace state.projects receipt session.process.cwd session.resumeLaunchGuard

/-- Every receipt describes its Session, and nothing else has its Session or id. -/
structure ReceiptsLawful (state : CurrentState) : Prop where
  describes : ∀ receipt ∈ state.sessionRelocationReceipts, Describes state receipt
  settled : ∀ receipt ∈ state.sessionRelocationReceipts,
    ∀ operation ∈ state.sessionRelocationOperations,
      operation.sessionId ≠ receipt.sessionId ∧ operation.operationId ≠ receipt.operationId
  distinct : state.sessionRelocationReceipts.Pairwise fun a b =>
    b.sessionId ≠ a.sessionId ∧ b.operationId ≠ a.operationId

theorem invalidRelocationReceipt_eq_false (st : CurrentState) :
    invalidRelocationReceipt st = false ↔ ReceiptsLawful st := by
  have checks : invalidRelocationReceipt st = false ↔
      (∀ receipt ∈ st.sessionRelocationReceipts, Describes st receipt ∧
        ∀ op ∈ st.sessionRelocationOperations, op.sessionId ≠ receipt.sessionId ∧
            op.operationId ≠ receipt.operationId) ∧
      st.sessionRelocationReceipts.Pairwise fun a b =>
        b.sessionId ≠ a.sessionId ∧ b.operationId ≠ a.operationId := by
    apply anyWithLater_eq_false
    intro receipt later
    simp only [Bool.or_eq_false_iff, Option.all_eq_false, bne_eq_false_iff_eq,
      receiptPlaceIsInvalid_eq_false, any_eq_false, Bool.or_eq_true, beq_iff_eq, not_or,
      decide_eq_false_iff_not, Nat.not_lt, beq_eq_false_iff_ne, and_assoc]
    constructor
    · rintro ⟨named,short,live,sess,apart,settled⟩
      exact ⟨⟨named,short,live,sess⟩,settled,apart⟩
    · rintro ⟨describes,settled,apart⟩
      exact ⟨describes.named,describes.short,describes.live,describes.session,apart,settled⟩
  rw [checks]
  constructor
  · rintro ⟨each,nodup⟩
    exact ⟨fun r here => (each r here).1,fun r here => (each r here).2,nodup⟩
  · intro lawful
    exact ⟨fun r here => ⟨lawful.describes r here,lawful.settled r here⟩,lawful.distinct⟩

end TermloopStore
