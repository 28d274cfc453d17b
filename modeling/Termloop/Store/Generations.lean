import Termloop.Store.StructuralOperations

/-!
Worktree generations as fences. Each journal compares the generation it recorded with
the one the Task has now, but some steps do not look at it again: they rely on the other
journals staying away from a held Task. Both together mean that an operation found in its
journal was recorded for the checkout that is still there.
-/
namespace TermloopJournals
open TermloopRecordLists TermloopOutcome TermloopRuns TermloopStore TermloopReceipts List
  TermloopRelocation

/-- Only provisionings may share a Task. -/
def AmongProvisionings (a b : Entry) : Prop := a.hold = .provisioning ∧ b.hold = .provisioning

/-- What keeps the journals out of each other's way. -/
structure Exclusive (ledger : Ledger) : Prop where
  apart : Apart AmongProvisionings ledger
  clear : TransfersClear ledger

section Moves
variable {pre after : Ledger} {label : MoveLabel} {taskId : String} {gen : Nat}

end Moves

/-- An operation as a caller remembers it: the Task, the id and the generation. -/
structure Stamp where
  (taskId operationId : String)
  generation : Nat

def Recorded (ledger : Ledger) (stamp : Stamp) : Prop :=
  (∃ entry ∈ ledger.entries, entry.taskId = stamp.taskId
      ∧ entry.hold.generation? = some stamp.generation)
    ∨ ∃ transfer ∈ ledger.transfers, transfer.taskId = stamp.taskId
      ∧ transfer.generation = stamp.generation

section Steps
variable {pre after : CurrentState} {call : Call} {taskId opId : String}
  {saves : Bool}

end Steps

section Runs
variable {start captured now : CurrentState} {past calls : List Call} {taskId : String}
  {gen : Nat}

end Runs

def repairOfTask : WorktreeRepairOperation :=
  { operationId := "mend", taskId := "task", managedWorktreeOperationId := "provision"
    expectedWorktreeGeneration := 1, candidatePath := "/found", stage := .reserved
    startedAt := 3, updatedAt := 3 }

def repair : List JournalAction :=
  [.beginRepair repairOfTask, .advanceRepair "task" "mend" .repairPrepared 4,
    .advanceRepair "task" "mend" .repairInvoked 5, .advanceRepair "task" "mend" .verified 6,
    .completeRepair "task" "mend" 7]

end TermloopJournals
