import Termloop.Store.Provisioning
import Termloop.Store.Relocation
import Termloop.Store.StaleResolution

/-!
The four journals that change a Task's checkout, and the relocations that depend on it,
as one system. A call names its operation and carries its arguments; the write at its end
may fail. The answer is part of the label, so a run shows which calls were accepted.
-/
namespace TermloopJournals
open TermloopStore TermloopReceipts TermloopRelocation

inductive JournalAction where
  | beginProvisioning (operation : WorktreeProvisioningOperation)
  | advanceProvisioning (taskId operationId : String) (stage : ProvisioningStage)
      (createdBranchRef : Bool) (updatedAt : Nat)
  | failProvisioning (taskId operationId : String) (failure : ProvisioningFailureKind)
      (updatedAt : Nat)
  | retryProvisioning (taskId operationId : String) (updatedAt : Nat)
  | rollbackProvisioning (taskId operationId : String) (failure : ProvisioningFailureKind)
      (updatedAt : Nat)
  | commitProvisioning (taskId operationId : String) (commit : ProvisioningCommit)
  | clearProvisioning (taskId operationId : String)
  | beginCleanup (operation : WorktreeCleanupOperation)
  | advanceCleanup (taskId operationId : String) (stage : WorktreeCleanupStage) (updatedAt : Nat)
  | failCleanup (taskId operationId : String) (failure : WorktreeCleanupFailure)
      (updatedAt : Nat)
  | retryCleanup (taskId operationId : String) (updatedAt : Nat)
  | supersedeCleanup (previousOperationId : String) (replacement : WorktreeCleanupOperation)
  | completeCleanup (taskId operationId : String) (completedAt : Nat)
  | clearCleanup (taskId operationId : String)
  | beginRepair (operation : WorktreeRepairOperation)
  | advanceRepair (taskId operationId : String) (stage : WorktreeRepairStage) (updatedAt : Nat)
  | resumeRepair (taskId operationId : String) (updatedAt : Nat)
  | failRepair (taskId operationId : String) (failure : WorktreeRepairFailure) (updatedAt : Nat)
  | completeRepair (taskId operationId : String) (completedAt : Nat)
  | dismissRepair (taskId operationId : String)
  | beginStaleResolution (operation : WorktreeStaleResolutionOperation)
      (supersedesCleanupOperationId : Option String)
  | advanceStaleResolution (taskId operationId : String) (stage : WorktreeStaleResolutionStage)
      (updatedAt : Nat)
  | failStaleResolution (taskId operationId : String) (failure : WorktreeStaleResolutionFailure)
      (updatedAt : Nat)
  | retryStaleResolution (taskId operationId : String) (updatedAt : Nat)
  | verifyAbsentStaleResolution (taskId operationId : String) (updatedAt : Nat)
  | clearStaleResolution (taskId operationId : String)
  | completeStaleResolution (taskId operationId : String) (completedAt : Nat)
  | beginRelocation (operation : SessionRelocationOperation)
  | markRelocation (sessionId operationId : String) (updatedAt : Nat)
  | commitRelocation (sessionId operationId : String) (runtimeEpoch : Nat) (resumeRef : ResumeRef)
  | failRelocation (sessionId operationId : String) (failure : ResumeFailureReason)

def perform (persisted : Bool) (state : CurrentState) : JournalAction → Answer Unit
  | .beginProvisioning operation =>
    settled (beginTaskWorktreeProvisioning operation persisted state)
  | .advanceProvisioning taskId operationId stage createdBranchRef updatedAt =>
    settled (advanceTaskWorktreeProvisioning taskId operationId stage createdBranchRef updatedAt
      persisted state)
  | .failProvisioning taskId operationId failure updatedAt =>
    settled (failTaskWorktreeProvisioning taskId operationId failure updatedAt persisted state)
  | .retryProvisioning taskId operationId updatedAt =>
    settled (retryTaskWorktreeProvisioning taskId operationId updatedAt persisted state)
  | .rollbackProvisioning taskId operationId failure updatedAt =>
    settled (recordProvisioningRefRollback taskId operationId failure updatedAt persisted state)
  | .commitProvisioning taskId operationId commit =>
    settled (commitTaskWorktreeProvisioning taskId operationId commit persisted state)
  | .clearProvisioning taskId operationId =>
    settled (clearTaskWorktreeProvisioning taskId operationId persisted state)
  | .beginCleanup operation => settled (beginTaskWorktreeCleanup operation persisted state)
  | .advanceCleanup taskId operationId stage updatedAt =>
    settled (advanceTaskWorktreeCleanup taskId operationId stage updatedAt persisted state)
  | .failCleanup taskId operationId failure updatedAt =>
    settled (failTaskWorktreeCleanup taskId operationId failure updatedAt persisted state)
  | .retryCleanup taskId operationId updatedAt =>
    settled (retryTaskWorktreeCleanup taskId operationId updatedAt persisted state)
  | .supersedeCleanup previousOperationId replacement =>
    settled (supersedeFailedTaskWorktreeCleanup previousOperationId replacement persisted state)
  | .completeCleanup taskId operationId completedAt =>
    settled (completeTaskWorktreeCleanup taskId operationId completedAt persisted state)
  | .clearCleanup taskId operationId =>
    settled (clearTaskWorktreeCleanup taskId operationId persisted state)
  | .beginRepair operation => settled (beginTaskWorktreeRepair operation persisted state)
  | .advanceRepair taskId operationId stage updatedAt =>
    settled (advanceTaskWorktreeRepair taskId operationId stage updatedAt persisted state)
  | .resumeRepair taskId operationId updatedAt =>
    settled (resumeTaskWorktreeRepairBeforeMutation taskId operationId updatedAt persisted state)
  | .failRepair taskId operationId failure updatedAt =>
    settled (failTaskWorktreeRepair taskId operationId failure updatedAt persisted state)
  | .completeRepair taskId operationId completedAt =>
    settled (completeTaskWorktreeRepair taskId operationId completedAt persisted state)
  | .dismissRepair taskId operationId =>
    settled (dismissTaskWorktreeRepair taskId operationId persisted state)
  | .beginStaleResolution operation superseded =>
    settled (beginTaskWorktreeStaleResolution operation superseded persisted state)
  | .advanceStaleResolution taskId operationId stage updatedAt =>
    settled (advanceTaskWorktreeStaleResolution taskId operationId stage updatedAt persisted
      state)
  | .failStaleResolution taskId operationId failure updatedAt =>
    settled (failTaskWorktreeStaleResolution taskId operationId failure updatedAt persisted state)
  | .retryStaleResolution taskId operationId updatedAt =>
    settled (retryTaskWorktreeStaleResolution taskId operationId updatedAt persisted state)
  | .verifyAbsentStaleResolution taskId operationId updatedAt =>
    settled (verifyAbsentTaskWorktreeStaleResolution taskId operationId updatedAt persisted state)
  | .clearStaleResolution taskId operationId =>
    settled (clearTaskWorktreeStaleResolutionBeforeMutation taskId operationId persisted state)
  | .completeStaleResolution taskId operationId completedAt =>
    settled (completeTaskWorktreeStaleResolution taskId operationId completedAt persisted state)
  | .beginRelocation operation => settled (beginSessionRelocation operation persisted state)
  | .markRelocation sessionId operationId updatedAt =>
    settled (markSessionRelocationTargetStarting sessionId operationId updatedAt persisted state)
  | .commitRelocation sessionId operationId runtimeEpoch resumeRef =>
    settled (commitSessionRelocation sessionId operationId runtimeEpoch resumeRef persisted state)
  | .failRelocation sessionId operationId failure =>
    settled (failSessionRelocation sessionId operationId failure persisted state)

structure Call where
  action : JournalAction
  persisted : Bool
  answer : Except StoreError Unit

def Step (before : CurrentState) (call : Call) (after : CurrentState) : Prop :=
  perform call.persisted before call.action = (call.answer, after)

/-!
What the journals are for, without their stages and paths: which operation holds which
Task and since which generation, which relocations are on their way, and who owns an
operation id.
-/

inductive Hold where
  | provisioning
  | cleanup (generation : Nat)
  | repair (generation : Nat)
  | staleResolution (generation : Nat)
  deriving DecidableEq

/-- The generation an operation was planned for. A provisioning makes a new one. -/
def Hold.generation? : Hold → Option Nat
  | .provisioning => none
  | .cleanup generation | .repair generation | .staleResolution generation => some generation

/-- The operation behind an id, which its journal entry, receipt and references all stand
    for. -/
inductive Owner where
  | taskArchive (taskId : String)
  | sessionArchive (sessionId : String)
  | relocation (sessionId : String)
  | provisioning (taskId : String)
  | cleanup (taskId : String)
  | repair (taskId : String)
  | staleResolution (taskId : String)
  deriving DecidableEq

structure Entry where
  hold : Hold
  (operationId taskId : String)
  managed : Option String
  deriving DecidableEq

def Entry.owner (entry : Entry) : Owner :=
  match entry.hold with
  | .provisioning => .provisioning entry.taskId
  | .cleanup _ => .cleanup entry.taskId
  | .repair _ => .repair entry.taskId
  | .staleResolution _ => .staleResolution entry.taskId

/-- The checkout an operation works on carries the id of the provisioning that made it. -/
def managedNames (taskId : String) (managed : Option String) : List (String × Owner) :=
  managed.toList.map fun id => (id, .provisioning taskId)

def Entry.names (entry : Entry) : List (String × Owner) :=
  (entry.operationId, entry.owner) :: managedNames entry.taskId entry.managed

structure Transfer where
  (operationId sessionId taskId : String)
  generation : Nat

def Transfer.name (transfer : Transfer) : String × Owner :=
  (transfer.operationId, .relocation transfer.sessionId)

structure Checkout where
  worktree : Option TaskWorktreeBinding
  proofs : List ManagedWorktreeProof
  cleanupReceipts : List WorktreeCleanupReceipt
  repairReceipts : List WorktreeRepairReceipt
  staleReceipts : List WorktreeStaleResolutionReceipt

structure Ledger where
  entries : List Entry
  transfers : List Transfer
  settled : List (String × Owner)
  generation : String → Option Nat
  checkout : String → Checkout

def Ledger.bound (ledger : Ledger) (taskId : String) : Bool :=
  (ledger.checkout taskId).worktree.isSome

def Ledger.owners (ledger : Ledger) : List (String × Owner) :=
  ledger.settled ++ ledger.entries.flatMap Entry.names ++ ledger.transfers.map Transfer.name

def SameTasks (before after : Ledger) (except : String → Prop) : Prop :=
  ∀ taskId, ¬ except taskId → after.generation taskId = before.generation taskId
    ∧ after.checkout taskId = before.checkout taskId

def Never (_ : String) : Prop := False

inductive MoveLabel where
  | reserve (operationId taskId : String)
  | bind (taskId : String)
  | unbind (taskId : String)
  | other

/-- A cleanup, repair or stale resolution starts on an unheld Task, at its generation and
    under an unused id; a reservation looks at the Task and its binding only. -/
inductive Move (before : Ledger) : MoveLabel → Ledger → Prop where
  | idle (label : MoveLabel) : Move before label before
  | settle {after : Ledger} (entries : after.entries.Sublist before.entries)
      (transfers : after.transfers.Sublist before.transfers) (tasks : SameTasks before after Never)
      (owners : after.owners ⊆ before.owners) : Move before .other after
  | reserve {after : Ledger} {entry : Entry} (hold : entry.hold = .provisioning)
      (opened : after.entries.Perm (entry :: before.entries))
      (free : ∀ other ∈ before.entries, other.taskId ≠ entry.taskId)
      (unbound : before.bound entry.taskId = false)
      (transfers : after.transfers = before.transfers) (tasks : SameTasks before after Never)
      (owners : after.owners ⊆ (entry.operationId, entry.owner) :: before.owners) :
      Move before (.reserve entry.operationId entry.taskId) after
  | start {after : Ledger} {entry : Entry} {generation : Nat}
      (hold : entry.hold.generation? = some generation)
      (current : before.generation entry.taskId = some generation)
      (opened : after.entries.Perm (entry :: before.entries))
      (free : ∀ other ∈ before.entries, other.taskId ≠ entry.taskId)
      (still : ∀ transfer ∈ before.transfers, transfer.taskId ≠ entry.taskId)
      (transfers : after.transfers = before.transfers) (tasks : SameTasks before after Never)
      (fresh : ∀ owner, (entry.operationId, owner) ∉ before.owners)
      (owners : after.owners ⊆ (entry.operationId, entry.owner) :: before.owners) :
      Move before .other after
  | replace {after : Ledger} {old entry : Entry} {rest : List Entry} {generation : Nat}
      (previous : old.hold ≠ .provisioning) (same : entry.taskId = old.taskId)
      (hold : entry.hold.generation? = some generation)
      (current : before.generation entry.taskId = some generation)
      (listed : before.entries.Perm (old :: rest)) (replaced : after.entries.Perm (entry :: rest))
      (transfers : after.transfers = before.transfers) (tasks : SameTasks before after Never)
      (fresh : ∀ owner, (entry.operationId, owner) ∉ before.owners)
      (owners : after.owners ⊆ (entry.operationId, entry.owner) :: before.owners) :
      Move before .other after
  | depart {after : Ledger} {transfer : Transfer}
      (current : before.generation transfer.taskId = some transfer.generation)
      (bound : before.bound transfer.taskId = true)
      (free : ∀ entry ∈ before.entries, entry.taskId ≠ transfer.taskId)
      (entries : after.entries = before.entries)
      (opened : after.transfers.Perm (transfer :: before.transfers))
      (tasks : SameTasks before after Never)
      (fresh : ∀ owner, (transfer.operationId, owner) ∉ before.owners)
      (owners : after.owners ⊆ transfer.name :: before.owners) : Move before .other after
  | bind {after : Ledger} {holder : Entry} (held : holder ∈ before.entries)
      (fenced : holder.hold = .provisioning ∨
        (holder.hold.generation? = before.generation holder.taskId
          ∧ ∀ entry ∈ after.entries, entry.owner ≠ holder.owner))
      (entries : after.entries.Sublist before.entries)
      (transfers : after.transfers = before.transfers)
      (raised : after.generation holder.taskId =
        (before.generation holder.taskId).map (· + 1))
      (bound : after.bound holder.taskId = true)
      (tasks : SameTasks before after (· = holder.taskId))
      (owners : after.owners ⊆ before.owners) : Move before (.bind holder.taskId) after
  | unbind {after : Ledger} {holder : Entry} (held : holder ∈ before.entries)
      (entries : after.entries.Sublist before.entries)
      (transfers : after.transfers = before.transfers)
      (generation : after.generation holder.taskId = before.generation holder.taskId)
      (tasks : SameTasks before after (· = holder.taskId))
      (owners : after.owners ⊆ before.owners) : Move before (.unbind holder.taskId) after

end TermloopJournals
