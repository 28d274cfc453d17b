import Termloop.Store.Cleanup

/-!
The journal that re-registers a moved checkout under a new path. A completed repair binds
the Task and its proof to the candidate path under the next generation.
-/
namespace TermloopStore
open TermloopRecordLists TermloopOutcome TermloopSaturating

inductive BeginRepairOutcome where
  | started (operation : WorktreeRepairOperation)
  | current (operation : WorktreeRepairOperation)
  | completed (receipt : WorktreeRepairReceipt)

structure RepairCommit where
  task : TaskRecord
  proof : ManagedWorktreeProof
  receipt : WorktreeRepairReceipt

def repairs (taskId operationId : String) (operation : WorktreeRepairOperation) : Bool :=
  operation.taskId == taskId && operation.operationId == operationId

def ensureRepairReceiptIsCurrent (state : CurrentState) (receipt : WorktreeRepairReceipt) :
    Except StoreError Unit :=
  match state.task? receipt.taskId with
  | none => .error .notFound
  | some task =>
    match state.proof? receipt.taskId with
    | none => .error (.managedWorktreeProofChanged receipt.taskId)
    | some proof =>
      if task.worktreeGeneration != receipt.worktreeGeneration
          || proof.worktreeGeneration != receipt.worktreeGeneration
          || proof.registeredWorktreePath != receipt.candidatePath then
        .error (.managedWorktreeProofChanged receipt.taskId)
      else .ok ()

def repairConflict (state : CurrentState) (taskId : String) : Option String :=
  match state.provisioningOperations.find? (·.taskId == taskId) with
  | some current => some current.operationId
  | none =>
    match state.cleanupOperations.find? (·.taskId == taskId) with
    | some current => some current.operationId
    | none =>
      match state.staleResolutionOperations.find? (·.taskId == taskId) with
      | some current => some current.operationId
      | none =>
        match state.sessionRelocationOperations.find? (·.targetTaskId == taskId) with
        | some current => some current.operationId
        | none =>
          (state.repairOperations.find? (·.taskId == taskId)).map (·.operationId)

def beginTaskWorktreeRepair (operation : WorktreeRepairOperation) (persisted : Bool)
    (state : CurrentState) : Answer BeginRepairOutcome :=
  match state.repairReceipts.find? (·.operationId == operation.operationId) with
  | some receipt =>
    if receipt.taskId == operation.taskId
        && receipt.managedWorktreeOperationId == operation.managedWorktreeOperationId
        && receipt.previousWorktreeGeneration == operation.expectedWorktreeGeneration
        && receipt.candidatePath == operation.candidatePath then
      ((ensureRepairReceiptIsCurrent state receipt).map fun _ => .completed receipt, state)
    else (.error (.operationIdReused operation.operationId), state)
  | none =>
    match state.repairOperations.find? (·.operationId == operation.operationId) with
    | some current =>
      if current.taskId == operation.taskId
          && current.managedWorktreeOperationId == operation.managedWorktreeOperationId
          && current.expectedWorktreeGeneration == operation.expectedWorktreeGeneration
          && current.candidatePath == operation.candidatePath then (.ok (.current current), state)
      else (.error (.operationIdReused operation.operationId), state)
    | none =>
      if operationIdOwnedAnywhere state operation.operationId then
        (.error (.operationIdReused operation.operationId), state)
      else
        match ensureRepairTuple state operation with
        | .error error => (.error error, state)
        | .ok () =>
          match repairConflict state operation.taskId with
          | some holder => (.error (.journalConflict holder), state)
          | none =>
            if operation.stage != .reserved || operation.failure.isSome then
              (.error .constraintViolation, state)
            else
              commitOrRestore persisted state
                { state with repairOperations := state.repairOperations ++ [operation] }
                (.started operation)

def WorktreeRepairOperation.moveOn (stage : WorktreeRepairStage)
    (failure : Option WorktreeRepairFailure) (updatedAt : Nat)
    (operation : WorktreeRepairOperation) : WorktreeRepairOperation :=
  { operation with stage := stage, failure := failure, updatedAt := updatedAt }

def commitRepair (taskId operationId : String)
    (change : WorktreeRepairOperation → WorktreeRepairOperation)
    (operation : WorktreeRepairOperation) (persisted : Bool) (state : CurrentState) :
    Answer WorktreeRepairOperation :=
  commitOrRestore persisted state
    { state with
      repairOperations :=
        updateFirst (repairs taskId operationId) change state.repairOperations }
    (change operation)

def repairAdvances : WorktreeRepairStage → WorktreeRepairStage → Bool
  | .reserved, .repairPrepared => true
  | .repairPrepared, .repairInvoked => true
  | .repairInvoked, .verified => true
  | .repairPrepared, .verified => true
  | _, _ => false

/-- Recovery may find the repair done, whatever failure the journal still shows. -/
def recoversVerified (current stage : WorktreeRepairStage) : Bool :=
  stage == .verified
    && (current == .repairPrepared || current == .repairInvoked || current == .verified)

def advanceTaskWorktreeRepair (taskId operationId : String) (stage : WorktreeRepairStage)
    (updatedAt : Nat) (persisted : Bool) (state : CurrentState) :
    Answer WorktreeRepairOperation :=
  match state.repairOperations.find? (repairs taskId operationId) with
  | none => (.error .notFound, state)
  | some current =>
    match ensureRepairTuple state current with
    | .error error => (.error error, state)
    | .ok () =>
      if current.stage == stage && current.failure.isNone then (.ok current, state)
      else if current.stage == stage && stage != .verified then
        (.error .constraintViolation, state)
      else if (current.failure.isSome || !repairAdvances current.stage stage)
          && !recoversVerified current.stage stage then (.error .constraintViolation, state)
      else
        commitRepair taskId operationId (WorktreeRepairOperation.moveOn stage none updatedAt)
          current persisted state

def resumeTaskWorktreeRepairBeforeMutation (taskId operationId : String) (updatedAt : Nat)
    (persisted : Bool) (state : CurrentState) : Answer WorktreeRepairOperation :=
  match state.repairOperations.find? (repairs taskId operationId) with
  | none => (.error .notFound, state)
  | some current =>
    match ensureRepairTuple state current with
    | .error error => (.error error, state)
    | .ok () =>
      if !(current.stage == .reserved || current.stage == .repairPrepared) then
        (.error .constraintViolation, state)
      else if current.failure.isNone then (.ok current, state)
      else
        commitRepair taskId operationId
          (fun operation => operation.moveOn operation.stage none updatedAt) current persisted
          state

/-- A failure is recorded without looking at the tuple again. -/
def failTaskWorktreeRepair (taskId operationId : String) (failure : WorktreeRepairFailure)
    (updatedAt : Nat) (persisted : Bool) (state : CurrentState) :
    Answer WorktreeRepairOperation :=
  match state.repairOperations.find? (repairs taskId operationId) with
  | none => (.error .notFound, state)
  | some current =>
    commitRepair taskId operationId
      (fun operation => operation.moveOn operation.stage (some failure) updatedAt) current
      persisted state

def TaskRecord.rebind (path : String) (generation completedAt : Nat) (task : TaskRecord) :
    TaskRecord :=
  { task with
    worktree := some { path := path }, worktreeGeneration := generation, updatedAt := completedAt }

def ManagedWorktreeProof.rebind (path : String) (generation : Nat)
    (proof : ManagedWorktreeProof) : ManagedWorktreeProof :=
  { proof with registeredWorktreePath := path, worktreeGeneration := generation }

def repairReceiptOf (operation : WorktreeRepairOperation) (generation completedAt : Nat) :
    WorktreeRepairReceipt :=
  { operationId := operation.operationId, taskId := operation.taskId
    managedWorktreeOperationId := operation.managedWorktreeOperationId
    previousWorktreeGeneration := operation.expectedWorktreeGeneration
    worktreeGeneration := generation, candidatePath := operation.candidatePath
    completedAt := completedAt }

def repairedState (state : CurrentState) (operation : WorktreeRepairOperation)
    (generation completedAt : Nat) : CurrentState :=
  { state.updateTask operation.taskId
      (TaskRecord.rebind operation.candidatePath generation completedAt) with
    managedWorktrees :=
      updateFirst (·.taskId == operation.taskId)
        (ManagedWorktreeProof.rebind operation.candidatePath generation) state.managedWorktrees
    repairOperations := state.repairOperations.filter (·.taskId != operation.taskId)
    repairReceipts := (state.repairReceipts.filter
      (·.taskId != operation.taskId)) ++ [repairReceiptOf operation generation completedAt] }

def completeTaskWorktreeRepair (taskId operationId : String) (completedAt : Nat)
    (persisted : Bool) (state : CurrentState) : Answer RepairCommit :=
  match state.repairOperations.find? (repairs taskId operationId) with
  | none => (.error .notFound, state)
  | some operation =>
    match ensureRepairTuple state operation with
    | .error error => (.error error, state)
    | .ok () =>
      if operation.stage != .verified || operation.failure.isSome then
        (.error .constraintViolation, state)
      -- `checked_add` on the generation
      else if operation.expectedWorktreeGeneration + 1 > u64Max then
        (.error .constraintViolation, state)
      else
        match state.task? taskId, state.proof? taskId with
        | none, _ => (.error .notFound, state)
        | some _, none => (.error .notFound, state)
        | some task, some proof =>
          let generation := operation.expectedWorktreeGeneration + 1
          commitOrRestore persisted state (repairedState state operation generation completedAt)
            { task := task.rebind operation.candidatePath generation completedAt
              proof := proof.rebind operation.candidatePath generation
              receipt := repairReceiptOf operation generation completedAt }

/-- A refused repair that has not touched anything is taken out again. -/
def dismissTaskWorktreeRepair (taskId operationId : String) (persisted : Bool)
    (state : CurrentState) : Answer TaskRecord :=
  match state.repairOperations.find? (repairs taskId operationId) with
  | none => (.error .notFound, state)
  | some operation =>
    if operation.stage != .reserved || operation.failure.isNone then
      (.error .constraintViolation, state)
    else
      match ensureRepairTuple state operation with
      | .error error => (.error error, state)
      | .ok () =>
        match state.task? taskId with
        | none => (.error .notFound, state)
        | some task =>
          commitOrRestore persisted state
            { state with
              repairOperations := state.repairOperations.eraseP (repairs taskId operationId) }
            task

end TermloopStore
