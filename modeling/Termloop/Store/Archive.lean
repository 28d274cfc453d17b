import Termloop.Store.Validation

/-!
The journal operations that park the Sessions of a Task and bring them back:
closing a Task, archiving it, restoring the archive, settling an archived Task
whose checkout was removed, and reopening a closed Task. Every operation answers
together with the state it leaves in memory; `persisted` says whether the write
of the changed state succeeds.
-/
namespace TermloopStore
open TermloopRecordLists TermloopOutcome

/-- The guard of a Session moved to `cwd`: the managed checkout's tuple in a Task worktree.
    -/
def currentWorktreeGuard (state : CurrentState) (cwd : String) : Option ResumeLaunchGuard :=
  match state.tasks.find? fun task => task.worktree.any (·.path == cwd) with
  | none => none
  | some task =>
    match state.managedWorktrees.find? fun proof =>
        proof.taskId == task.id && proof.worktreeGeneration == task.worktreeGeneration
          && proof.registeredWorktreePath == cwd with
    | none => none
    | some proof => some
        { taskId := task.id, managedWorktreeOperationId := proof.operationId
          worktreeGeneration := proof.worktreeGeneration, path := cwd }

def SessionRecord.exited (session : SessionRecord) : SessionRecord :=
  { session with lifecycleState := "exited", resumeFailure := none }

/-- The lifecycle a parked Session comes back with: a running one was interrupted. -/
def SessionRecord.release (suspension : TaskArchiveSuspension) (session : SessionRecord) :
    SessionRecord :=
  if suspension.priorLifecycleState == "running" then
    { session with
      lifecycleState := "resumeFailed", resumeFailure := some .daemonInterrupted }
  else
    { session with
      lifecycleState := suspension.priorLifecycleState
      resumeFailure := suspension.priorResumeFailure }

def SessionRecord.moveTo (cwd : String) (guard : Option ResumeLaunchGuard)
    (session : SessionRecord) : SessionRecord :=
  { session with process := { session.process with cwd := cwd }, resumeLaunchGuard := guard }

def commitSessionArchive (sessionId operationId : String) (archivedAt : Nat) (persisted : Bool)
    (state : CurrentState) : Answer SessionRecord :=
  let wanted := fun operation : SessionArchiveOperation =>
    operation.sessionId == sessionId && operation.operationId == operationId
  match state.sessionArchiveOperations.find? wanted with
  | none => (.error .notFound, state)
  | some operation =>
    match state.session? sessionId with
    | none => (.error .notFound, state)
    | some session =>
      if session.projectId != operation.projectId
          || session.runtimeEpoch != operation.runtimeEpoch
          || session.archivedAt.isSome then (.error .constraintViolation, state)
      else
        let archive := fun session : SessionRecord =>
          { session.exited with archivedAt := some archivedAt }
        let changed := state.updateSession sessionId archive
        commitOrRestore persisted state
          { changed with
            sessionArchiveOperations := changed.sessionArchiveOperations.eraseP wanted }
          (archive session)

def beginTaskArchive (operation : TaskArchiveOperation) (persisted : Bool)
    (state : CurrentState) : Answer Nat :=
  match state.task? operation.taskId with
  | none => (.error .notFound, state)
  | some task =>
    if task.archivedAt.isSome
        || task.projectId != operation.projectId
        || state.taskArchiveOperations.any (·.taskId == operation.taskId)
        || state.sessionRelocationOperations.any (·.targetTaskId == operation.taskId)
        || operationIdOwnedAnywhere state operation.operationId then
      (.error .constraintViolation, state)
    else
      commitRevision persisted state
        { state with taskArchiveOperations := state.taskArchiveOperations ++ [operation] }

def suspensionOf (taskId : String) (parkedAt : Nat) (reason : TaskSuspensionReason)
    (target : TaskArchiveTarget) : TaskArchiveSuspension :=
  { taskId := some taskId, sessionId := target.sessionId, archivedAt := parkedAt
    priorLifecycleState := target.priorLifecycleState
    priorResumeFailure := target.priorResumeFailure, reason := reason }

/-- One pass of the parking loops. An archive ends only live Agents, a close every target.
    -/
def parkTarget (taskId : String) (parkedAt : Nat) (reason : TaskSuspensionReason)
    (ends : TaskArchiveTarget → Bool) (state : CurrentState) (target : TaskArchiveTarget) :
    Answer Unit :=
  match state.session? target.sessionId with
  | none => (.error .notFound, state)
  | some _ =>
    let changed :=
      if ends target then state.updateSession target.sessionId SessionRecord.exited else state
    (.ok (), { changed with
      taskArchiveSuspensions :=
        changed.taskArchiveSuspensions ++ [suspensionOf taskId parkedAt reason target] })

/-- A target is already parked, or no Session of the Project has its id and epoch. -/
def targetUnavailable (state : CurrentState) (projectId : String) (target : TaskArchiveTarget) :
    Bool :=
  state.taskArchiveSuspensions.any (·.sessionId == target.sessionId)
    || !state.sessions.any fun session =>
      session.id == target.sessionId && session.projectId == projectId
        && session.runtimeEpoch == target.runtimeEpoch

def TaskRecord.archive (archivedAt : Nat) (task : TaskRecord) : TaskRecord :=
  { task with archivedAt := some archivedAt, updatedAt := archivedAt }

def commitTaskArchive (taskId operationId : String) (archivedAt : Nat) (persisted : Bool)
    (state : CurrentState) : Answer Nat :=
  let wanted := fun operation : TaskArchiveOperation =>
    operation.taskId == taskId && operation.operationId == operationId
  match state.taskArchiveOperations.find? wanted with
  | none => (.error .notFound, state)
  | some operation =>
    match state.task? taskId with
    | none => (.error .notFound, state)
    | some task =>
      if task.archivedAt.isSome
          || operation.targets.any (targetUnavailable state operation.projectId) then
        (.error .constraintViolation, state)
      else
        match forEach (parkTarget taskId archivedAt .archived (·.wasLiveAgent))
            operation.targets state with
        | (.error error, changed) => (.error error, changed)
        | (.ok (), changed) =>
          let changed := changed.updateTask taskId (TaskRecord.archive archivedAt)
          commitRevision persisted state
            { changed with
              taskArchiveOperations := changed.taskArchiveOperations.eraseP wanted }

def TaskRecord.setStatus (status : TaskStatus) (updatedAt : Nat) (task : TaskRecord) :
    TaskRecord :=
  if task.status == status then task
  else { task with status := status, updatedAt := max updatedAt (task.updatedAt + 1) }

def closeTaskWithSuspendedSessions (taskId : String) (targets : List TaskArchiveTarget)
    (closedAt : Nat) (persisted : Bool) (state : CurrentState) : Answer TaskRecord :=
  match state.task? taskId with
  | none => (.error .notFound, state)
  | some task =>
    match state.sessionRelocationOperations.find? (·.targetTaskId == taskId) with
    | some operation => (.error (.journalConflict operation.operationId), state)
    | none =>
      if task.status != .opened
          || task.archivedAt.isSome
          || anyWithLater (fun target later =>
            later.any (·.sessionId == target.sessionId)
              || targetUnavailable state task.projectId target) targets then
        (.error .constraintViolation, state)
      else
        match forEach (parkTarget taskId closedAt .closed fun _ => true) targets state with
        | (.error error, changed) => (.error error, changed)
        | (.ok (), changed) =>
          commitOrRestore persisted state
            (changed.updateTask taskId (TaskRecord.setStatus .closed closedAt))
            (TaskRecord.setStatus .closed closedAt task)

def restorable (taskId sessionId : String) (suspension : TaskArchiveSuspension) : Bool :=
  suspension.sessionId == sessionId && suspension.taskId.all fun id => id == taskId

/-- One pass of `restore_task_archive`: the Session's first suspension of this Task or of
    none goes, and its lifecycle comes back. -/
def restoreSession (taskId : String) (pair : CurrentState × List String) (sessionId : String) :
    Outcome StoreError (CurrentState × List String) Unit :=
  let (state, resumable) := pair
  match state.taskArchiveSuspensions.find? (restorable taskId sessionId) with
  | none => (.error .constraintViolation, pair)
  | some suspension =>
    let released :=
      { state with
        taskArchiveSuspensions :=
          state.taskArchiveSuspensions.eraseP (restorable taskId sessionId) }
    match state.session? sessionId with
    | none => (.error .notFound, (released, resumable))
    | some _ =>
      (.ok (), (released.updateSession sessionId (SessionRecord.release suspension),
        if suspension.priorLifecycleState == "running" then resumable ++ [sessionId]
        else resumable))

def TaskRecord.unarchive (updatedAt : Nat) (task : TaskRecord) : TaskRecord :=
  { task with archivedAt := none, updatedAt := updatedAt }

def restoreTaskArchive (taskId : String) (sessionIds : List String) (updatedAt : Nat)
    (persisted : Bool) (state : CurrentState) : Answer (List String) :=
  match state.task? taskId with
  | none => (.error .notFound, state)
  | some task =>
    match task.archivedAt with
    | none => (.error .constraintViolation, state)
    | some archivedAt =>
      if sessionIds.any fun sessionId => !state.taskArchiveSuspensions.any fun suspension =>
          suspension.sessionId == sessionId && suspension.archivedAt == archivedAt
            && suspension.taskId.all fun id => id == taskId then
        (.error .constraintViolation, state)
      else
        match forEach (restoreSession taskId) sessionIds (state, []) with
        | (.error error, changed) => (.error error, changed.1)
        | (.ok (), changed) =>
          commitOrRestore persisted state
            (changed.1.updateTask taskId (TaskRecord.unarchive updatedAt)) changed.2

def settles (taskId : String) (archivedAt : Nat) (suspension : TaskArchiveSuspension) : Bool :=
  suspension.taskId == some taskId && suspension.archivedAt == archivedAt

/-- The loop of `finalize_archived_task_as_closed_after_worktree_removal`. A missing Session
    stops it, with earlier records already rewritten. -/
def settleSuspensions (taskId : String) (archivedAt : Nat) (folder : String) :
    List TaskArchiveSuspension → List SessionRecord →
      Except StoreError Unit × List TaskArchiveSuspension × List SessionRecord
  | [], sessions => (.ok (), [], sessions)
  | suspension :: rest, sessions =>
    if settles taskId archivedAt suspension then
      let settled := { suspension with reason := .closedWorktreeRemoved }
      if sessions.any (·.id == suspension.sessionId) then
        let (result, rest, sessions) := settleSuspensions taskId archivedAt folder rest
          (updateFirst (·.id == suspension.sessionId)
            (SessionRecord.moveTo folder none) sessions)
        (result, settled :: rest, sessions)
      else (.error .constraintViolation, settled :: rest, sessions)
    else
      let (result, rest, sessions) := settleSuspensions taskId archivedAt folder rest sessions
      (result, suspension :: rest, sessions)

def removalProven (state : CurrentState) (taskId : String) (generation : Nat) : Bool :=
  state.cleanupReceipts.any (fun receipt =>
      receipt.taskId == taskId && receipt.worktreeGeneration == generation
        && receipt.outcome == .removed)
    || state.staleResolutionReceipts.any fun receipt =>
      receipt.taskId == taskId && receipt.worktreeGeneration == generation
        && receipt.mode == .discardDirectory

def TaskRecord.settleClosed (updatedAt : Nat) (task : TaskRecord) : TaskRecord :=
  { task with
    archivedAt := none, status := .closed, updatedAt := max updatedAt (task.updatedAt + 1) }

def finalizeArchivedTaskAsClosedAfterWorktreeRemoval (taskId : String) (updatedAt : Nat)
    (persisted : Bool) (state : CurrentState) : Answer TaskRecord :=
  match state.task? taskId with
  | none => (.error .notFound, state)
  | some task =>
    match task.archivedAt, state.project? task.projectId with
    | none, _ => (.error .constraintViolation, state)
    | some _, none => (.error .constraintViolation, state)
    | some archivedAt, some project =>
      if task.worktree.isSome
          || !removalProven state taskId task.worktreeGeneration
          || state.taskArchiveOperations.any (·.taskId == taskId)
          || state.cleanupOperations.any (·.taskId == taskId)
          || state.staleResolutionOperations.any (·.taskId == taskId)
          then (.error .constraintViolation, state)
      else
        match settleSuspensions taskId archivedAt project.folderPath
            state.taskArchiveSuspensions state.sessions with
        | (.error error, suspensions, sessions) =>
          (.error error,
            { state with taskArchiveSuspensions := suspensions, sessions := sessions })
        | (.ok (), suspensions, sessions) =>
          let changed :=
            { state with taskArchiveSuspensions := suspensions, sessions := sessions }
          commitOrRestore persisted state
            (changed.updateTask taskId (TaskRecord.settleClosed updatedAt))
            (task.settleClosed updatedAt)

/-- Back to the Project when the Task closed without a checkout, into the recreated checkout
    when the old one was removed. -/
def SessionRecord.reopenPlace (relocated recreated : Option String)
    (recreatedGuard : Option ResumeLaunchGuard) (suspension : TaskArchiveSuspension)
    (session : SessionRecord) : SessionRecord :=
  match suspension.reason, relocated, recreated with
  | .closed, some cwd, _ => session.moveTo cwd none
  | .closedWorktreeRemoved, _, some cwd => session.moveTo cwd recreatedGuard
  | _, _, _ => session

def SessionRecord.reopened (relocated recreated : Option String)
    (recreatedGuard : Option ResumeLaunchGuard) (suspension : TaskArchiveSuspension)
    (session : SessionRecord) : SessionRecord :=
  (session.reopenPlace relocated recreated recreatedGuard suspension).release suspension

def parkedByClose (taskId : String) (suspension : TaskArchiveSuspension) : Bool :=
  suspension.taskId == some taskId && suspension.reason.parksClosedTask

def reopens (taskId sessionId : String) (suspension : TaskArchiveSuspension) : Bool :=
  suspension.sessionId == sessionId && parkedByClose taskId suspension

def reopenSession (taskId : String) (relocated recreated : Option String)
    (pair : CurrentState × List String) (sessionId : String) :
    Outcome StoreError (CurrentState × List String) Unit :=
  let (state, resumable) := pair
  match state.taskArchiveSuspensions.find? (reopens taskId sessionId) with
  | none => (.error .constraintViolation, pair)
  | some suspension =>
    let released :=
      { state with
        taskArchiveSuspensions :=
          state.taskArchiveSuspensions.eraseP (reopens taskId sessionId) }
    let recreatedGuard := recreated.bind (currentWorktreeGuard released)
    match state.session? sessionId with
    | none => (.error .notFound, (released, resumable))
    | some _ =>
      (.ok (), (released.updateSession sessionId
          (SessionRecord.reopened relocated recreated recreatedGuard suspension),
        if suspension.priorLifecycleState == "running" then resumable ++ [sessionId]
        else resumable))

def recreatedWorktree (task : TaskRecord) : Option String := task.worktree.map (·.path)

def relocatedCwd (state : CurrentState) (task : TaskRecord) : Option String :=
  if task.worktree.isNone then (state.project? task.projectId).map (·.folderPath) else none

def waiting (taskId : String) (suspensions : List TaskArchiveSuspension) : List String :=
  (suspensions.filter (parkedByClose taskId)).map (·.sessionId)

def TaskRecord.reopen (updatedAt : Nat) (task : TaskRecord) : TaskRecord :=
  { task with status := .opened, updatedAt := max updatedAt (task.updatedAt + 1) }

def reopenTaskWithSuspendedSessions (taskId : String) (updatedAt : Nat) (persisted : Bool)
    (state : CurrentState) : Answer (TaskRecord × List String) :=
  match state.task? taskId with
  | none => (.error .notFound, state)
  | some task =>
    if task.status != .closed || task.archivedAt.isSome then (.error .constraintViolation, state)
    else
      match forEach (reopenSession taskId (relocatedCwd state task) (recreatedWorktree task))
          (waiting taskId state.taskArchiveSuspensions) (state, []) with
      | (.error error, changed) => (.error error, changed.1)
      | (.ok (), changed) =>
        commitOrRestore persisted state (changed.1.updateTask taskId (TaskRecord.reopen updatedAt))
          (task.reopen updatedAt, changed.2)

end TermloopStore
