import Termloop.Store.Repair

/-!
The journal that gives up a checkout Git no longer knows: the binding is forgotten, or
the directory is discarded first. It may take over from a cleanup that has not removed
anything yet, and it is the only journal that can also hold an unmanaged binding.
-/
namespace TermloopStore
open TermloopRecordLists TermloopOutcome

inductive BeginStaleResolutionOutcome where
  | started (operation : WorktreeStaleResolutionOperation)
  | current (operation : WorktreeStaleResolutionOperation)
  | completed (receipt : WorktreeStaleResolutionReceipt)

structure StaleResolutionCommit where
  task : TaskRecord
  receipt : WorktreeStaleResolutionReceipt

def resolves (taskId operationId : String) (operation : WorktreeStaleResolutionOperation) :
    Bool :=
  operation.taskId == taskId && operation.operationId == operationId

def staleOperationsHaveSameIntent (left right : WorktreeStaleResolutionOperation) : Bool :=
  left.taskId == right.taskId
    && left.managedWorktreeOperationId == right.managedWorktreeOperationId
    && left.worktreeGeneration == right.worktreeGeneration
    && left.targetPath == right.targetPath
    && left.mode == right.mode

def staleReceiptMatchesOperation (receipt : WorktreeStaleResolutionReceipt)
    (operation : WorktreeStaleResolutionOperation) : Bool :=
  receipt.taskId == operation.taskId
    && receipt.managedWorktreeOperationId == operation.managedWorktreeOperationId
    && receipt.worktreeGeneration == operation.worktreeGeneration
    && receipt.targetPath == operation.targetPath
    && receipt.mode == operation.mode

def staleConflict (state : CurrentState) (taskId : String) : Option String :=
  match state.provisioningOperations.find? (·.taskId == taskId) with
  | some current => some current.operationId
  | none =>
    match state.repairOperations.find? (·.taskId == taskId) with
    | some current => some current.operationId
    | none =>
      (state.sessionRelocationOperations.find? (·.targetTaskId == taskId)).map (·.operationId)

/-- The Task's cleanup, if any, is the one named and has removed nothing. -/
def cleanupTakeover (state : CurrentState) (taskId : String) (superseded : Option String) :
    Except StoreError Unit :=
  match state.cleanupOperations.find? (·.taskId == taskId) with
  | some current =>
    if some current.operationId != superseded
        || !(current.stage == .reserved || current.stage == .removePrepared) then
      .error (.journalConflict current.operationId)
    else .ok ()
  | none => if superseded.isSome then .error .notFound else .ok ()

def beginTaskWorktreeStaleResolution (operation : WorktreeStaleResolutionOperation)
    (supersedesCleanupOperationId : Option String) (persisted : Bool) (state : CurrentState) :
    Answer BeginStaleResolutionOutcome :=
  match state.staleResolutionReceipts.find? (·.operationId == operation.operationId) with
  | some receipt =>
    if staleReceiptMatchesOperation receipt operation
        && state.tasks.any fun task =>
          task.id == receipt.taskId && task.worktree.isNone
            && task.worktreeGeneration == receipt.worktreeGeneration then
      (.ok (.completed receipt), state)
    else (.error (.operationIdReused operation.operationId), state)
  | none =>
    match state.staleResolutionOperations.find? (·.operationId == operation.operationId) with
    | some current =>
      if staleOperationsHaveSameIntent current operation then (.ok (.current current), state)
      else (.error (.operationIdReused operation.operationId), state)
    | none =>
      if operationIdOwnedAnywhere state operation.operationId then
        (.error (.operationIdReused operation.operationId), state)
      else
        match ensureStaleResolutionTuple state operation with
        | .error error => (.error error, state)
        | .ok () =>
          if operation.stage != .reserved || operation.failure.isSome then
            (.error .constraintViolation, state)
          else
            match staleConflict state operation.taskId with
            | some holder => (.error (.journalConflict holder), state)
            | none =>
              match cleanupTakeover state operation.taskId supersedesCleanupOperationId with
              | .error error => (.error error, state)
              | .ok () =>
                match state.staleResolutionOperations.find? (·.taskId == operation.taskId) with
                | some current => (.error (.journalConflict current.operationId), state)
                | none =>
                  commitOrRestore persisted state
                    { state with
                      cleanupOperations := state.cleanupOperations.eraseP
                        (·.taskId == operation.taskId)
                      staleResolutionOperations :=
                        state.staleResolutionOperations ++ [operation] }
                    (.started operation)

def WorktreeStaleResolutionOperation.moveOn (stage : WorktreeStaleResolutionStage)
    (failure : Option WorktreeStaleResolutionFailure) (updatedAt : Nat)
    (operation : WorktreeStaleResolutionOperation) : WorktreeStaleResolutionOperation :=
  { operation with stage := stage, failure := failure, updatedAt := updatedAt }

def commitStaleResolution (taskId operationId : String)
    (change : WorktreeStaleResolutionOperation → WorktreeStaleResolutionOperation)
    (operation : WorktreeStaleResolutionOperation) (persisted : Bool) (state : CurrentState) :
    Answer WorktreeStaleResolutionOperation :=
  commitOrRestore persisted state
    { state with
      staleResolutionOperations :=
        updateFirst (resolves taskId operationId) change state.staleResolutionOperations }
    (change operation)

def staleAdvances : WorktreeStaleResolutionStage → WorktreeStaleResolutionStage → Bool
  | .reserved, .removalPrepared => true
  | .removalPrepared, .removalInvoked => true
  | .removalInvoked, .removalVerified => true
  | _, _ => false

def advanceTaskWorktreeStaleResolution (taskId operationId : String)
    (stage : WorktreeStaleResolutionStage) (updatedAt : Nat) (persisted : Bool)
    (state : CurrentState) : Answer WorktreeStaleResolutionOperation :=
  match state.staleResolutionOperations.find? (resolves taskId operationId) with
  | none => (.error .notFound, state)
  | some current =>
    if current.stage == stage && current.failure.isNone then (.ok current, state)
    else if !(current.mode == .discardDirectory && staleAdvances current.stage stage) then
      (.error .constraintViolation, state)
    else
      commitStaleResolution taskId operationId
        (WorktreeStaleResolutionOperation.moveOn stage none updatedAt) current persisted state

def failTaskWorktreeStaleResolution (taskId operationId : String)
    (failure : WorktreeStaleResolutionFailure) (updatedAt : Nat) (persisted : Bool)
    (state : CurrentState) : Answer WorktreeStaleResolutionOperation :=
  if !validBlockers failure.blockers then (.error .constraintViolation, state)
  else
    match state.staleResolutionOperations.find? (resolves taskId operationId) with
    | none => (.error .notFound, state)
    | some current =>
      if current.failure == some failure then (.ok current, state)
      else
        commitStaleResolution taskId operationId
          (fun operation => operation.moveOn operation.stage (some failure) updatedAt) current
          persisted state

/-- The recorded failure asks for a look at the disk. -/
def WorktreeStaleResolutionOperation.awaitsRecovery
    (operation : WorktreeStaleResolutionOperation) : Bool :=
  operation.failure.any (·.kind == .recoveryAttention)

def retryTaskWorktreeStaleResolution (taskId operationId : String) (updatedAt : Nat)
    (persisted : Bool) (state : CurrentState) : Answer WorktreeStaleResolutionOperation :=
  match state.staleResolutionOperations.find? (resolves taskId operationId) with
  | none => (.error .notFound, state)
  | some current =>
    if current.mode != .discardDirectory || current.stage != .removalPrepared
        || !current.awaitsRecovery then (.error .constraintViolation, state)
    else
      commitStaleResolution taskId operationId
        (fun operation => operation.moveOn operation.stage none updatedAt) current persisted state

def verifyAbsentTaskWorktreeStaleResolution (taskId operationId : String) (updatedAt : Nat)
    (persisted : Bool) (state : CurrentState) : Answer WorktreeStaleResolutionOperation :=
  match state.staleResolutionOperations.find? (resolves taskId operationId) with
  | none => (.error .notFound, state)
  | some current =>
    match ensureStaleResolutionTuple state current with
    | .error error => (.error error, state)
    | .ok () =>
      if current.mode != .discardDirectory
          || !(current.stage == .removalPrepared || current.stage == .removalInvoked)
          || !current.awaitsRecovery then (.error .constraintViolation, state)
      else
        commitStaleResolution taskId operationId
          (WorktreeStaleResolutionOperation.moveOn .removalVerified none updatedAt) current
          persisted state

def clearTaskWorktreeStaleResolutionBeforeMutation (taskId operationId : String)
    (persisted : Bool) (state : CurrentState) : Answer Nat :=
  match state.staleResolutionOperations.find? (resolves taskId operationId) with
  | none => (.error .notFound, state)
  | some operation =>
    if !(operation.stage == .reserved || operation.stage == .removalPrepared)
        || operation.failure.isSome then (.error .constraintViolation, state)
    else
      commitRevision persisted state
        { state with
          staleResolutionOperations :=
            state.staleResolutionOperations.eraseP (resolves taskId operationId) }

def staleFinalStage : WorktreeStaleResolutionMode → WorktreeStaleResolutionStage
  | .forgetBinding => .reserved
  | .discardDirectory => .removalVerified

def staleReceiptOf (operation : WorktreeStaleResolutionOperation) (completedAt : Nat) :
    WorktreeStaleResolutionReceipt :=
  { operationId := operation.operationId, taskId := operation.taskId
    managedWorktreeOperationId := operation.managedWorktreeOperationId
    worktreeGeneration := operation.worktreeGeneration, targetPath := operation.targetPath
    mode := operation.mode, completedAt := completedAt }

def resolvedState (state : CurrentState) (operation : WorktreeStaleResolutionOperation)
    (completedAt : Nat) : CurrentState :=
  { state.updateTask operation.taskId (TaskRecord.unbind completedAt) with
    managedWorktrees := state.managedWorktrees.filter (·.taskId != operation.taskId)
    staleResolutionReceipts := (state.staleResolutionReceipts.filter
      (·.taskId != operation.taskId)) ++ [staleReceiptOf operation completedAt]
    staleResolutionOperations := state.staleResolutionOperations.eraseP
      (resolves operation.taskId operation.operationId) }

def completeTaskWorktreeStaleResolution (taskId operationId : String) (completedAt : Nat)
    (persisted : Bool) (state : CurrentState) : Answer StaleResolutionCommit :=
  match state.staleResolutionOperations.find? (resolves taskId operationId) with
  | none => (.error .notFound, state)
  | some operation =>
    match ensureStaleResolutionTuple state operation with
    | .error error => (.error error, state)
    | .ok () =>
      if operation.stage != staleFinalStage operation.mode || operation.failure.isSome then
        (.error .constraintViolation, state)
      else
        match state.task? taskId with
        | none => (.error .notFound, state)
        | some task =>
          commitOrRestore persisted state (resolvedState state operation completedAt)
            { task := task.unbind completedAt, receipt := staleReceiptOf operation completedAt }

end TermloopStore
