import Termloop.Store.Archive

/-!
The provisioning journal of a Task's worktree: an operation is reserved, advanced
as Git reports, and committed into the Task's binding under a new generation.
-/
namespace TermloopStore
open TermloopRecordLists TermloopOutcome TermloopSaturating

inductive BeginProvisioningOutcome where
  | started (operation : WorktreeProvisioningOperation)
  | current (operation : WorktreeProvisioningOperation)
  | completed (proof : ManagedWorktreeProof)

def operationIdUsedElsewhere (state : CurrentState) (operationId : String) : Bool :=
  operationIdOwnedByCleanup state operationId
    || state.repairOperations.any (·.operationId == operationId)
    || state.repairReceipts.any (·.operationId == operationId)
    || state.staleResolutionOperations.any (·.operationId == operationId)
    || state.staleResolutionReceipts.any (·.operationId == operationId)

/-- The operation of another worktree journal that holds the Task. -/
def structuralConflict (state : CurrentState) (taskId : String) : Option String :=
  match state.cleanupOperations.find? (·.taskId == taskId) with
  | some current => some current.operationId
  | none =>
    match state.repairOperations.find? (·.taskId == taskId) with
    | some current => some current.operationId
    | none =>
      (state.staleResolutionOperations.find? (·.taskId == taskId)).map (·.operationId)

/-- The Task that already holds the branch or the directory an operation wants. -/
def provisioningHolder (state : CurrentState) (operation : WorktreeProvisioningOperation) :
    Option StoreError :=
  match state.tasks.find? fun candidate =>
      candidate.id != operation.taskId && candidate.projectId == operation.projectId
        && candidate.branch.any fun binding =>
          binding.repositoryRoot == operation.spec.repositoryRoot
            && binding.name == operation.spec.branchName with
  | some holder => some (.branchHeld holder.id)
  | none =>
    match state.provisioningOperations.find? fun candidate =>
        candidate.taskId != operation.taskId && candidate.projectId == operation.projectId
          && candidate.spec.repositoryRoot == operation.spec.repositoryRoot
          && candidate.spec.branchName == operation.spec.branchName with
    | some holder => some (.branchHeld holder.taskId)
    | none =>
      match state.tasks.find? fun candidate =>
          candidate.id != operation.taskId && candidate.worktree.any
            (·.path == operation.spec.destinationPath) with
      | some holder => some (.worktreePathHeld holder.id)
      | none =>
        (state.provisioningOperations.find?
          (·.spec.destinationPath == operation.spec.destinationPath)).map fun holder =>
            .worktreePathHeld holder.taskId

def beginTaskWorktreeProvisioning (operation : WorktreeProvisioningOperation) (persisted : Bool)
    (state : CurrentState) : Answer BeginProvisioningOutcome :=
  match state.task? operation.taskId with
  | none => (.error .notFound, state)
  | some task =>
    if task.projectId != operation.projectId
        || task.branch.any (fun binding =>
          binding.repositoryRoot != operation.spec.repositoryRoot
            || binding.name != operation.spec.branchName) then
      (.error .constraintViolation, state)
    else if operationIdUsedElsewhere state operation.operationId then
      (.error (.operationIdReused operation.operationId), state)
    else
      match structuralConflict state operation.taskId with
      | some conflict => (.error (.journalConflict conflict), state)
      | none =>
        match state.managedWorktrees.find? (·.operationId == operation.operationId) with
        | some proof =>
          if proof.taskId == operation.taskId && proof.normalizedSpec == operation.spec then
            (.ok (.completed proof), state)
          else (.error (.operationIdReused operation.operationId), state)
        | none =>
          if state.provisioningOperations.any fun current =>
              current.operationId == operation.operationId
                && (current.taskId != operation.taskId || current.spec != operation.spec) then
            (.error (.operationIdReused operation.operationId), state)
          else
            match state.provisioningOperations.find? (·.taskId == operation.taskId) with
            | some current =>
              if current.spec == operation.spec then (.ok (.current current), state)
              else (.error (.journalConflict current.operationId), state)
            | none =>
              if task.worktree.isSome then (.error .constraintViolation, state)
              else
                match provisioningHolder state operation with
                | some error => (.error error, state)
                | none =>
                  commitOrRestore persisted state
                    { state with
                      provisioningOperations := state.provisioningOperations ++ [operation] }
                    (.started operation)

def validAdvance : ProvisioningStage → ProvisioningStage → Bool
  | .reserved, .branchCreated => true
  | .reserved, .worktreeAdded => true
  | .branchCreated, .worktreeAdded => true
  | _, _ => false

def advanceTaskWorktreeProvisioning (taskId operationId : String) (stage : ProvisioningStage)
    (createdBranchRef : Bool) (updatedAt : Nat) (persisted : Bool) (state : CurrentState) :
    Answer WorktreeProvisioningOperation :=
  let wanted := fun operation : WorktreeProvisioningOperation =>
    operation.taskId == taskId && operation.operationId == operationId
  match state.provisioningOperations.find? wanted with
  | none => (.error .notFound, state)
  | some operation =>
    if operation.stage == stage && operation.createdBranchRef == createdBranchRef then
      (.ok operation, state)
    else if !validAdvance operation.stage stage then (.error .constraintViolation, state)
    else
      let advance := fun operation : WorktreeProvisioningOperation =>
        { operation with
          stage := stage, createdBranchRef := createdBranchRef, failure := none
          updatedAt := updatedAt }
      commitOrRestore persisted state
        { state with
          provisioningOperations := updateFirst wanted advance state.provisioningOperations }
        (advance operation)

def provisions (taskId operationId : String) (operation : WorktreeProvisioningOperation) : Bool :=
  operation.taskId == taskId && operation.operationId == operationId

def commitProvisioning (taskId operationId : String)
    (change : WorktreeProvisioningOperation → WorktreeProvisioningOperation)
    (operation : WorktreeProvisioningOperation) (persisted : Bool) (state : CurrentState) :
    Answer WorktreeProvisioningOperation :=
  commitOrRestore persisted state
    { state with
      provisioningOperations :=
        updateFirst (provisions taskId operationId) change state.provisioningOperations }
    (change operation)

def failTaskWorktreeProvisioning (taskId operationId : String) (failure : ProvisioningFailureKind)
    (updatedAt : Nat) (persisted : Bool) (state : CurrentState) :
    Answer WorktreeProvisioningOperation :=
  match state.provisioningOperations.find? (provisions taskId operationId) with
  | none => (.error .notFound, state)
  | some operation =>
    if operation.failure == some failure then (.ok operation, state)
    else
      commitProvisioning taskId operationId
        (fun operation => { operation with failure := some failure, updatedAt := updatedAt })
        operation persisted state

def retryTaskWorktreeProvisioning (taskId operationId : String) (updatedAt : Nat)
    (persisted : Bool) (state : CurrentState) : Answer WorktreeProvisioningOperation :=
  match state.provisioningOperations.find? (provisions taskId operationId) with
  | none => (.error .notFound, state)
  | some operation =>
    if operation.failure.isNone then (.ok operation, state)
    else
      commitProvisioning taskId operationId
        (fun operation => { operation with failure := none, updatedAt := updatedAt }) operation
        persisted state

def recordProvisioningRefRollback (taskId operationId : String)
    (failure : ProvisioningFailureKind) (updatedAt : Nat) (persisted : Bool)
    (state : CurrentState) : Answer WorktreeProvisioningOperation :=
  match state.provisioningOperations.find? (provisions taskId operationId) with
  | none => (.error .notFound, state)
  | some operation =>
    if operation.stage != .branchCreated || !operation.createdBranchRef then
      (.error .constraintViolation, state)
    else
      commitProvisioning taskId operationId
        (fun operation =>
          { operation with
            stage := .reserved, createdBranchRef := false, failure := some failure
            updatedAt := updatedAt })
        operation persisted state

def clearTaskWorktreeProvisioning (taskId operationId : String) (persisted : Bool)
    (state : CurrentState) : Answer Nat :=
  match state.provisioningOperations.find? (provisions taskId operationId) with
  | none => (.error .notFound, state)
  | some _ =>
    commitRevision persisted state
      { state with
        provisioningOperations :=
          state.provisioningOperations.eraseP (provisions taskId operationId) }

structure ProvisioningCommit where
  branch : TaskBranchBinding
  worktree : TaskWorktreeBinding
  proof : ManagedWorktreeProof
  updatedAt : Nat

def commitMismatch (taskId operationId : String) (commit : ProvisioningCommit)
    (operation : WorktreeProvisioningOperation) : Bool :=
  operation.stage != .worktreeAdded
    || operation.spec != commit.proof.normalizedSpec
    || operation.spec.repositoryRoot != commit.branch.repositoryRoot
    || operation.spec.branchName != commit.branch.name
    || commit.proof.taskId != taskId
    || commit.proof.operationId != operationId
    || commit.proof.registeredWorktreePath != commit.worktree.path

def branchHolder (state : CurrentState) (taskId projectId : String) (branch : TaskBranchBinding) :
    Option StoreError :=
  match state.tasks.find? fun candidate =>
      candidate.id != taskId && candidate.projectId == projectId
        && candidate.branch == some branch with
  | some holder => some (.branchHeld holder.id)
  | none =>
    (state.provisioningOperations.find? fun candidate =>
      candidate.taskId != taskId && candidate.projectId == projectId
        && candidate.spec.repositoryRoot == branch.repositoryRoot
        && candidate.spec.branchName == branch.name).map fun holder => .branchHeld holder.taskId

def TaskRecord.bind (commit : ProvisioningCommit) (task : TaskRecord) : TaskRecord :=
  { task with
    branch := some commit.branch, worktree := some commit.worktree
    worktreeGeneration := task.worktreeGeneration + 1, updatedAt := commit.updatedAt }

def commitTaskWorktreeProvisioning (taskId operationId : String) (commit : ProvisioningCommit)
    (persisted : Bool) (state : CurrentState) : Answer TaskRecord :=
  let wanted := fun operation : WorktreeProvisioningOperation =>
    operation.taskId == taskId && operation.operationId == operationId
  match state.provisioningOperations.find? wanted with
  | none => (.error .notFound, state)
  | some operation =>
    if commitMismatch taskId operationId commit operation then (.error .constraintViolation, state)
    else
      match state.task? taskId with
      | none => (.error .notFound, state)
      | some task =>
        if task.worktree.isSome
            || task.projectId != operation.projectId
            || task.branch.any (fun existing => existing != commit.branch)
            || state.managedWorktrees.any (fun candidate =>
              candidate.taskId != taskId
                && candidate.registeredWorktreePath == commit.worktree.path)
            || state.cleanupOperations.any (·.taskId == taskId)
            || state.repairOperations.any (·.taskId == taskId) then
          (.error .constraintViolation, state)
        else
          match branchHolder state taskId task.projectId commit.branch with
          | some error => (.error error, state)
          | none =>
            -- `checked_add` on the generation
            if task.worktreeGeneration + 1 > u64Max then (.error .constraintViolation, state)
            else
              let changed := state.updateTask taskId (TaskRecord.bind commit)
              commitOrRestore persisted state
                { changed with
                  managedWorktrees :=
                    (state.managedWorktrees.filter (·.taskId != taskId))
                      ++ [{ commit.proof with worktreeGeneration := task.worktreeGeneration + 1 }]
                  provisioningOperations :=
                    updateFirst wanted (fun operation =>
                      { operation with
                        stage := .bindingCommitted, failure := none
                        updatedAt := commit.updatedAt })
                      state.provisioningOperations }
                (task.bind commit)

end TermloopStore
