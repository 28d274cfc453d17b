import Termloop.Store.Validation

/-!
The journal that removes a Task's checkout. An operation is reserved under the tuple of
Task, managed proof and generation it was planned for, and every later step looks the
tuple up again before it moves. Completion clears the binding, drops the proof and leaves
a receipt; the journal entry itself stays until it is cleared.
-/
namespace TermloopStore
open TermloopRecordLists TermloopOutcome

inductive BeginCleanupOutcome where
  | started (operation : WorktreeCleanupOperation)
  | current (operation : WorktreeCleanupOperation)
  | completed (receipt : WorktreeCleanupReceipt)

structure CleanupCommit where
  task : TaskRecord
  receipt : WorktreeCleanupReceipt

def CurrentState.proof? (state : CurrentState) (taskId : String) : Option ManagedWorktreeProof :=
  state.managedWorktrees.find? (·.taskId == taskId)

def cleans (taskId operationId : String) (operation : WorktreeCleanupOperation) : Bool :=
  operation.taskId == taskId && operation.operationId == operationId

def ensureCleanupReceiptIsCurrent (state : CurrentState) (receipt : WorktreeCleanupReceipt) :
    Except StoreError Unit :=
  match state.task? receipt.taskId with
  | none => .error .notFound
  | some task =>
    if task.worktreeGeneration == receipt.worktreeGeneration
        && task.worktree.isNone
        && !state.managedWorktrees.any (·.taskId == receipt.taskId) then .ok ()
    else .error (.managedWorktreeProofChanged receipt.taskId)

def cleanupTupleMatches (task : TaskRecord) (proof : ManagedWorktreeProof)
    (operation : WorktreeCleanupOperation) : Bool :=
  decide (operation.worktreeGeneration > 0)
    && task.worktreeGeneration == operation.worktreeGeneration
    && proof.worktreeGeneration == operation.worktreeGeneration
    && proof.operationId == operation.managedWorktreeOperationId
    && task.worktree.any (fun binding =>
      binding.path == operation.baseline.worktreePath
        && binding.path == operation.baseline.registeredWorktreePath)
    && task.branch.any (fun binding =>
      binding.repositoryRoot == operation.baseline.repositoryRoot
        && proof.branchRef == operation.baseline.branchRef)
    && proof.repositoryCommonDir == operation.baseline.repositoryCommonDir
    && proof.registeredWorktreePath == operation.baseline.registeredWorktreePath

def ensureCleanupTuple (state : CurrentState) (operation : WorktreeCleanupOperation) :
    Except StoreError Unit :=
  match state.task? operation.taskId with
  | none => .error .notFound
  | some task =>
    match state.proof? operation.taskId with
    | none => .error (.managedWorktreeProofChanged operation.taskId)
    | some proof =>
      if cleanupTupleMatches task proof operation then .ok ()
      else .error (.managedWorktreeProofChanged operation.taskId)

def checkedCurrentCleanup (state : CurrentState) (taskId operationId : String) :
    Except StoreError WorktreeCleanupOperation :=
  match state.cleanupOperations.find? (cleans taskId operationId) with
  | none => .error .notFound
  | some operation => (ensureCleanupTuple state operation).map fun _ => operation

/-- The operation of another journal that holds the Task. -/
def cleanupConflict (state : CurrentState) (taskId : String) : Option String :=
  match state.provisioningOperations.find? (·.taskId == taskId) with
  | some current => some current.operationId
  | none =>
    match state.repairOperations.find? (·.taskId == taskId) with
    | some current => some current.operationId
    | none =>
      match state.staleResolutionOperations.find? (·.taskId == taskId) with
      | some current => some current.operationId
      | none =>
        (state.sessionRelocationOperations.find? (·.targetTaskId == taskId)).map (·.operationId)

def receiptOfIntent (receipt : WorktreeCleanupReceipt) (operation : WorktreeCleanupOperation) :
    Bool :=
  receipt.taskId == operation.taskId
    && receipt.worktreeGeneration == operation.worktreeGeneration
    && receipt.managedWorktreeOperationId == operation.managedWorktreeOperationId
    && receipt.cleanupMode == operation.cleanupMode
    && receipt.acknowledgedContentBlockers == operation.acknowledgedContentBlockers

def sameRemoval (left right : WorktreeCleanupOperation) : Bool :=
  left.worktreeGeneration == right.worktreeGeneration
    && left.managedWorktreeOperationId == right.managedWorktreeOperationId
    && left.cleanupMode == right.cleanupMode
    && left.acknowledgedContentBlockers == right.acknowledgedContentBlockers

def beginTaskWorktreeCleanup (operation : WorktreeCleanupOperation) (persisted : Bool)
    (state : CurrentState) : Answer BeginCleanupOutcome :=
  if !validateCleanupIntent operation.cleanupMode operation.acknowledgedContentBlockers then
    (.error .constraintViolation, state)
  else
    match state.cleanupReceipts.find? (·.operationId == operation.operationId) with
    | some receipt =>
      if receiptOfIntent receipt operation then
        ((ensureCleanupReceiptIsCurrent state receipt).map fun _ => .completed receipt, state)
      else (.error (.operationIdReused operation.operationId), state)
    | none =>
      match state.cleanupOperations.find? (·.operationId == operation.operationId) with
      | some current =>
        if current.taskId == operation.taskId && current.baseline == operation.baseline
            && sameRemoval current operation then (.ok (.current current), state)
        else (.error (.operationIdReused operation.operationId), state)
      | none =>
        if operationIdOwnedAnywhere state operation.operationId then
          (.error (.operationIdReused operation.operationId), state)
        else
          match ensureCleanupTuple state operation with
          | .error error => (.error error, state)
          | .ok () =>
            match cleanupConflict state operation.taskId with
            | some holder => (.error (.journalConflict holder), state)
            | none =>
              match state.cleanupOperations.find? (·.taskId == operation.taskId) with
              | some current =>
                if sameRemoval current operation then (.ok (.current current), state)
                else (.error (.journalConflict current.operationId), state)
              | none =>
                if operation.stage != .reserved || operation.failure.isSome then
                  (.error .constraintViolation, state)
                else
                  commitOrRestore persisted state
                    { state with cleanupOperations := state.cleanupOperations ++ [operation] }
                    (.started operation)

def WorktreeCleanupOperation.moveOn (stage : WorktreeCleanupStage)
    (failure : Option WorktreeCleanupFailure) (updatedAt : Nat)
    (operation : WorktreeCleanupOperation) : WorktreeCleanupOperation :=
  { operation with stage := stage, failure := failure, updatedAt := updatedAt }

def commitCleanup (taskId operationId : String)
    (change : WorktreeCleanupOperation → WorktreeCleanupOperation)
    (operation : WorktreeCleanupOperation) (persisted : Bool) (state : CurrentState) :
    Answer WorktreeCleanupOperation :=
  commitOrRestore persisted state
    { state with
      cleanupOperations :=
        updateFirst (cleans taskId operationId) change state.cleanupOperations }
    (change operation)

def cleanupAdvances : WorktreeCleanupStage → WorktreeCleanupStage → Bool
  | .reserved, .removePrepared => true
  | .removePrepared, .removalVerified => true
  | _, _ => false

def advanceTaskWorktreeCleanup (taskId operationId : String) (stage : WorktreeCleanupStage)
    (updatedAt : Nat) (persisted : Bool) (state : CurrentState) :
    Answer WorktreeCleanupOperation :=
  match checkedCurrentCleanup state taskId operationId with
  | .error error => (.error error, state)
  | .ok operation =>
    if operation.stage == stage && operation.failure.isNone then (.ok operation, state)
    else if !cleanupAdvances operation.stage stage then (.error .constraintViolation, state)
    else
      commitCleanup taskId operationId
        (WorktreeCleanupOperation.moveOn stage none updatedAt) operation persisted state

def failTaskWorktreeCleanup (taskId operationId : String) (failure : WorktreeCleanupFailure)
    (updatedAt : Nat) (persisted : Bool) (state : CurrentState) :
    Answer WorktreeCleanupOperation :=
  match checkedCurrentCleanup state taskId operationId with
  | .error error => (.error error, state)
  | .ok operation =>
    if !validBlockers failure.blockers then (.error .constraintViolation, state)
    else if operation.failure == some failure then (.ok operation, state)
    else
      commitCleanup taskId operationId
        (fun operation => operation.moveOn operation.stage (some failure) updatedAt)
        operation persisted state

/-- A safe removal that met new content goes back to be evaluated again. -/
def retryStage (operation : WorktreeCleanupOperation) : WorktreeCleanupStage :=
  if operation.cleanupMode == .safe && operation.stage == .removePrepared
      && operation.failure.any (·.kind == .checkoutContentAppeared) then
    .reserved
  else operation.stage

def retryTaskWorktreeCleanup (taskId operationId : String) (updatedAt : Nat) (persisted : Bool)
    (state : CurrentState) : Answer WorktreeCleanupOperation :=
  match checkedCurrentCleanup state taskId operationId with
  | .error error => (.error error, state)
  | .ok operation =>
    if operation.failure.isNone then (.ok operation, state)
    else
      commitCleanup taskId operationId
        (WorktreeCleanupOperation.moveOn (retryStage operation) none updatedAt) operation
        persisted state

def supersedeFailedTaskWorktreeCleanup (previousOperationId : String)
    (replacement : WorktreeCleanupOperation) (persisted : Bool) (state : CurrentState) :
    Answer WorktreeCleanupOperation :=
  if !validateCleanupIntent replacement.cleanupMode replacement.acknowledgedContentBlockers then
    (.error .constraintViolation, state)
  else if replacement.stage != .reserved || replacement.failure.isSome then
    (.error .constraintViolation, state)
  else
    match state.cleanupOperations.find? (cleans replacement.taskId previousOperationId) with
    | none => (.error .notFound, state)
    | some previous =>
      if previous.failure.isNone
          || replacement.cleanupMode != .discardCheckoutContent
          || previous.worktreeGeneration != replacement.worktreeGeneration
          || previous.managedWorktreeOperationId != replacement.managedWorktreeOperationId then
        (.error .constraintViolation, state)
      else if operationIdOwnedAnywhere state replacement.operationId then
        (.error (.operationIdReused replacement.operationId), state)
      else
        match ensureCleanupTuple state replacement with
        | .error error => (.error error, state)
        | .ok () =>
          commitOrRestore persisted state
            { state with
              cleanupOperations :=
                updateFirst (cleans replacement.taskId previousOperationId)
                  (fun _ => replacement) state.cleanupOperations }
            replacement

/-- What a completed cleanup has done: nothing on disk when it was only reserved. -/
def cleanupOutcome : WorktreeCleanupStage → Option WorktreeCleanupOutcome
  | .reserved => some .bindingCleared
  | .removalVerified => some .removed
  | .removePrepared | .bindingCleared => none

def TaskRecord.unbind (completedAt : Nat) (task : TaskRecord) : TaskRecord :=
  { task with worktree := none, updatedAt := max completedAt (task.updatedAt + 1) }

def cleanupReceiptOf (operation : WorktreeCleanupOperation) (outcome : WorktreeCleanupOutcome)
    (completedAt : Nat) : WorktreeCleanupReceipt :=
  { operationId := operation.operationId, taskId := operation.taskId
    worktreeGeneration := operation.worktreeGeneration
    managedWorktreeOperationId := operation.managedWorktreeOperationId
    cleanupMode := operation.cleanupMode
    acknowledgedContentBlockers := operation.acknowledgedContentBlockers, outcome := outcome
    completedAt := completedAt }

def cleanedState (state : CurrentState) (operation : WorktreeCleanupOperation)
    (outcome : WorktreeCleanupOutcome) (completedAt : Nat) : CurrentState :=
  { state.updateTask operation.taskId (TaskRecord.unbind completedAt) with
    managedWorktrees := state.managedWorktrees.filter (·.taskId != operation.taskId)
    cleanupReceipts := (state.cleanupReceipts.filter
      (·.taskId != operation.taskId)) ++ [cleanupReceiptOf operation outcome completedAt]
    cleanupOperations :=
      updateFirst (cleans operation.taskId operation.operationId)
        (WorktreeCleanupOperation.moveOn .bindingCleared none completedAt)
        state.cleanupOperations }

def completeTaskWorktreeCleanup (taskId operationId : String) (completedAt : Nat)
    (persisted : Bool) (state : CurrentState) : Answer CleanupCommit :=
  match checkedCurrentCleanup state taskId operationId with
  | .error error => (.error error, state)
  | .ok operation =>
    if operation.failure.isSome then (.error .constraintViolation, state)
    else
      match cleanupOutcome operation.stage with
      | none => (.error .constraintViolation, state)
      | some outcome =>
        match state.task? taskId with
        | none => (.error .notFound, state)
        | some task =>
          commitOrRestore persisted state (cleanedState state operation outcome completedAt)
            { task := task.unbind completedAt
              receipt := cleanupReceiptOf operation outcome completedAt }

def clearTaskWorktreeCleanup (taskId operationId : String) (persisted : Bool)
    (state : CurrentState) : Answer Nat :=
  match state.cleanupOperations.find? (cleans taskId operationId) with
  | none => (.error .notFound, state)
  | some _ =>
    commitRevision persisted state
      { state with
        cleanupOperations := state.cleanupOperations.eraseP (cleans taskId operationId) }

end TermloopStore
