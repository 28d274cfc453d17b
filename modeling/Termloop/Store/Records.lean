import Termloop.Lib.RecordLists
import Termloop.Lib.Operations
import Termloop.Lib.Text

/-!
The part of the durable state file that parked Sessions, archived Tasks,
relocations and Task worktrees live in. Records keep the fields that the journal
operations and the load-time validator read; epoch times and generations are
numbers, `lifecycle_state` is free text as in the file. A record list is
addressed by its first match, exactly as the store scans it.
-/
namespace TermloopStore
open TermloopRecordLists TermloopOutcome TermloopText

structure ProjectRecord where
  (id folderPath : String)
  deriving DecidableEq

inductive TaskStatus where
  | opened | closed
  deriving DecidableEq

structure TaskBranchBinding where
  (repositoryRoot name : String)
  deriving DecidableEq

structure TaskWorktreeBinding where
  path : String
  deriving DecidableEq

structure TaskRecord where
  (id projectId : String)
  status : TaskStatus
  archivedAt : Option Nat := none
  branch : Option TaskBranchBinding := none
  worktree : Option TaskWorktreeBinding := none
  (worktreeGeneration updatedAt : Nat)
  stewardBriefMarkdown : String := ""
  stewardBriefRevision : Nat := 1
  deriving DecidableEq

inductive SessionKind where
  | terminal | agent
  deriving DecidableEq

inductive ResumeProvider where
  | claude | codex | gemini | opencode | unknown
  deriving DecidableEq

structure ResumeRef where
  provider : ResumeProvider
  nativeSessionId : String
  deriving DecidableEq

inductive ResumeFailureReason where
  | resumeRefMissing | invalidResumeRef | resumeCapabilityUnavailable | runtimeOwnershipUncertain
  | providerSessionUnavailable | providerHistoryDamaged | resumeRejected | providerMismatch
  | startupTimedOut | daemonInterrupted | resumeQueueFull | ptySpawnFailed | cwdUnavailable
  | launchReserved | runtimeConflict
  deriving DecidableEq

/-- The managed checkout a later resume must find again. -/
structure ResumeLaunchGuard where
  (taskId managedWorktreeOperationId : String)
  worktreeGeneration : Nat
  path : String
  deriving DecidableEq

structure ProcessDescriptor where
  cwd : String
  (agentId templateRef : Option String := none)
  deriving DecidableEq

structure AskToContinuation where
  conversationId : String
  currentRequestId : Option String
  deriving DecidableEq

structure AgentLaunchSelection where
  model : String := "default"
  permission : String := "default"
  reasoning : String := "default"
  accountId : Option String := none
  deriving DecidableEq

inductive ImproverSessionTargetKind where
  | stewardInstructions | routineInstructions | routineBuilder | playbook | runConfiguration
  | newRunConfiguration | settingsSkill | settingsPrompt | settingsMcpTool | agentCreator
  | workflowDraft
  deriving DecidableEq

structure ImproverSessionTarget where
  targetKind : ImproverSessionTargetKind
  targetId : Option String
  deriving DecidableEq

structure SessionRecord where
  (id projectId : String)
  kind : SessionKind
  process : ProcessDescriptor
  launchSelection : AgentLaunchSelection := {}
  lifecycleState : String
  runtimeEpoch : Nat
  archivedAt : Option Nat := none
  askToSourceSessionId : Option String := none
  forkSourceSessionId : Option String := none
  runConfigurationId : Option String := none
  improverTarget : Option ImproverSessionTarget := none
  askToContinuation : Option AskToContinuation := none
  resumeRef : Option ResumeRef := none
  resumeLaunchGuard : Option ResumeLaunchGuard := none
  resumeFailure : Option ResumeFailureReason := none
  deriving DecidableEq

def lowerHex (c : Char) : Bool :=
  ('0' ≤ c && c ≤ '9') || ('a' ≤ c && c ≤ 'f')

/-- Groups of 8, 4, 4, 4 and 12 lower-case hexadecimal digits, as `uuid` prints. -/
def isHyphenatedUuid (text : List Char) : Bool :=
  text.length == 36 &&
    text.zipIdx.all fun (c, i) =>
      if i == 8 || i == 13 || i == 18 || i == 23 then c == '-' else lowerHex c

/-- `str::strip_prefix` on characters. -/
def withoutHead : List Char → List Char → Option (List Char)
  | [], rest => some rest
  | h :: head, c :: rest => if h = c then withoutHead head rest else none
  | _ :: _, [] => none

def validAgentAccountId (id : String) : Bool := id == "default" || isHyphenatedUuid id.toList

def AgentLaunchSelection.isWellFormed (selection : AgentLaunchSelection) : Bool :=
  selection.accountId.all validAgentAccountId
    && [selection.model, selection.permission, selection.reasoning].all fun value =>
      !value.isEmpty && decide (value.utf8ByteSize ≤ 128) && !value.toList.any isControl

def asciiAlphanumeric (c : Char) : Bool :=
  ('0' ≤ c && c ≤ '9') || ('a' ≤ c && c ≤ 'z') || ('A' ≤ c && c ≤ 'Z')

def maxNativeIdBytes : Nat := 256

def ResumeRef.validate (r : ResumeRef) : Bool :=
  !r.nativeSessionId.isEmpty
    && r.nativeSessionId.utf8ByteSize ≤ maxNativeIdBytes
    && !r.nativeSessionId.toList.any isControl
    && match r.provider with
      | .claude | .gemini => isHyphenatedUuid r.nativeSessionId.toList
      | .codex => true
      | .opencode =>
        match withoutHead "ses_".toList r.nativeSessionId.toList with
        | some id => !id.isEmpty && id.all fun c => asciiAlphanumeric c || c == '_' || c == '-'
        | none => false
      | .unknown => false

def providerMatchesAgent : ResumeProvider → Option String → Bool
  | .claude, some "claude" | .codex, some "codex" | .gemini, some "gemini"
  | .opencode, some "opencode" => true
  | _, _ => false

inductive ArchiveOperationState where
  | prepared | recoveryAttention
  deriving DecidableEq

structure SessionArchiveOperation where
  (operationId sessionId projectId : String)
  runtimeEpoch : Nat
  state : ArchiveOperationState
  requestedAt : Nat
  deriving DecidableEq

structure TaskArchiveTarget where
  sessionId : String
  runtimeEpoch : Nat
  priorLifecycleState : String
  priorResumeFailure : Option ResumeFailureReason
  wasLiveAgent : Bool
  deriving DecidableEq

structure TaskArchiveOperation where
  (operationId taskId projectId : String)
  worktreePath : Option String
  worktreeGeneration : Nat
  targets : List TaskArchiveTarget
  state : ArchiveOperationState
  deriving DecidableEq

inductive TaskSuspensionReason where
  | archived | closedWorktreeRemoved | closed
  deriving DecidableEq

def TaskSuspensionReason.parksClosedTask : TaskSuspensionReason → Bool
  | .closedWorktreeRemoved | .closed => true
  | .archived => false

/-- A parked Session, with its state before, its reason and its Task, which old files leave
    out. -/
structure TaskArchiveSuspension where
  taskId : Option String
  sessionId : String
  archivedAt : Nat
  priorLifecycleState : String
  priorResumeFailure : Option ResumeFailureReason := none
  reason : TaskSuspensionReason
  deriving DecidableEq

inductive SessionRelocationStage where
  | sourceRetiring | targetStarting
  deriving DecidableEq

inductive SessionRelocationTarget where
  | taskWorktree | projectRoot
  deriving DecidableEq

structure SessionRelocationOperation where
  (operationId sessionId projectId : String)
  sourceRuntimeEpoch : Nat
  sourceCwd : String
  target : SessionRelocationTarget
  (targetTaskId targetCwd : String)
  targetWorktreeGeneration : Nat
  targetManagedWorktreeOperationId : String
  stage : SessionRelocationStage
  (startedAt updatedAt : Nat)
  deriving DecidableEq

structure SessionRelocationReceipt where
  (operationId sessionId projectId : String)
  target : SessionRelocationTarget
  (targetTaskId targetCwd : String)
  targetWorktreeGeneration : Nat
  targetManagedWorktreeOperationId : String
  runtimeEpoch : Nat
  deriving DecidableEq

inductive ProvisioningBranchMode where
  | existing | create
  deriving DecidableEq

structure NormalizedWorktreeSpec where
  version : Nat
  (repositoryRoot repositoryCommonDir destinationPath branchName : String)
  branchMode : ProvisioningBranchMode
  (baseRef baseOid : Option String := none)
  deriving DecidableEq

inductive ProvisioningStage where
  | reserved | branchCreated | worktreeAdded | bindingCommitted
  deriving DecidableEq

inductive ProvisioningFailureKind where
  | gitUnavailable | unsupportedGit | permissionDenied | repositoryUnavailable | branchConflict
  | pathConflict | worktreeLocked | timeout | outputLimit | recoveryAttention | operationFailed
  deriving DecidableEq

structure WorktreeProvisioningOperation where
  (operationId taskId projectId : String)
  spec : NormalizedWorktreeSpec
  stage : ProvisioningStage
  createdBranchRef : Bool
  failure : Option ProvisioningFailureKind := none
  (startedAt updatedAt : Nat)
  deriving DecidableEq

structure ManagedWorktreeProof where
  (taskId operationId : String)
  (worktreeGeneration normalizedSpecVersion : Nat)
  normalizedSpec : NormalizedWorktreeSpec
  (repositoryCommonDir registeredWorktreePath branchRef : String)
  deriving DecidableEq

inductive WorktreeCleanupFailureKind where
  | refused | managedProofChanged | repositoryUnavailable | permissionDenied | unsupportedGit
  | timeout | outputLimit | checkoutContentAppeared | removalFailed | recoveryAttention
  | operationFailed
  deriving DecidableEq

inductive WorktreeCleanupOutcome where
  | removed | bindingCleared
  deriving DecidableEq

inductive WorktreeCleanupStage where
  | reserved | removePrepared | removalVerified | bindingCleared
  deriving DecidableEq

inductive WorktreeCleanupMode where
  | safe | discardCheckoutContent
  deriving DecidableEq

/-- Why a checkout may not be removed, in the canonical order of an acknowledged set. -/
inductive WorktreeCleanupBlocker where
  | noBinding | provisioningInProgress | cleanupInProgress | managedProofMissing
  | managedProofMismatch | pathReplaced | pathRegistrationInconsistent | orphanedManagedDirectory
  | registrationMismatch | branchMismatch | headMismatch | sessionAttached | trackedChanges
  | stagedChanges | untrackedContent | ignoredContent | submodulePresent | worktreeLock | indexLock
  | repositoryUnavailable | permissionDenied | unsupportedGit | timeout | outputLimit
  | observationFailed | recoveryAttention
  deriving DecidableEq

structure WorktreeCleanupFailure where
  kind : WorktreeCleanupFailureKind
  blockers : List WorktreeCleanupBlocker
  deriving DecidableEq

/-- What the checkout looked like when its cleanup was reserved. -/
structure WorktreeCleanupBaseline where
  (repositoryRoot repositoryCommonDir worktreePath registeredWorktreePath branchRef : String)
  checkoutBranchRef : Option String := none
  headOid : String
  deriving DecidableEq

structure WorktreeCleanupOperation where
  (operationId taskId : String)
  worktreeGeneration : Nat
  managedWorktreeOperationId : String
  cleanupMode : WorktreeCleanupMode
  acknowledgedContentBlockers : List WorktreeCleanupBlocker
  baseline : WorktreeCleanupBaseline
  stage : WorktreeCleanupStage
  failure : Option WorktreeCleanupFailure := none
  (startedAt updatedAt : Nat)
  deriving DecidableEq

structure WorktreeCleanupReceipt where
  (operationId taskId : String)
  worktreeGeneration : Nat
  managedWorktreeOperationId : String
  cleanupMode : WorktreeCleanupMode
  acknowledgedContentBlockers : List WorktreeCleanupBlocker
  outcome : WorktreeCleanupOutcome
  completedAt : Nat
  deriving DecidableEq

inductive WorktreeStaleResolutionMode where
  | forgetBinding | discardDirectory
  deriving DecidableEq

inductive WorktreeStaleResolutionStage where
  | reserved | removalPrepared | removalInvoked | removalVerified
  deriving DecidableEq

inductive WorktreeStaleResolutionFailureKind where
  | refused | managedProofChanged | permissionDenied | removalFailed | verificationFailed
  | recoveryAttention | operationFailed
  deriving DecidableEq

inductive WorktreeStaleResolutionBlocker where
  | noBinding | managedProofMissing | managedProofMismatch | provisioningInProgress
  | cleanupInProgress | repairInProgress | staleDisposalInProgress | repositoryUnavailable
  | commonRepositoryChanged | pathAbsent | pathReplaced | registrationPresent | branchMissing
  | gitMetadataPresent | sessionAttached | protectedPath | permissionDenied | timeout
  | observationFailed | recoveryAttention
  deriving DecidableEq

structure WorktreeStaleResolutionFailure where
  kind : WorktreeStaleResolutionFailureKind
  blockers : List WorktreeStaleResolutionBlocker
  deriving DecidableEq

structure WorktreeStaleResolutionOperation where
  (operationId taskId : String)
  managedWorktreeOperationId : Option String
  worktreeGeneration : Nat
  targetPath : String
  mode : WorktreeStaleResolutionMode
  stage : WorktreeStaleResolutionStage
  failure : Option WorktreeStaleResolutionFailure := none
  (startedAt updatedAt : Nat)
  deriving DecidableEq

structure WorktreeStaleResolutionReceipt where
  (operationId taskId : String)
  managedWorktreeOperationId : Option String
  worktreeGeneration : Nat
  targetPath : String
  mode : WorktreeStaleResolutionMode
  completedAt : Nat
  deriving DecidableEq

inductive WorktreeRepairStage where
  | reserved | repairPrepared | repairInvoked | verified | proofCommitted
  deriving DecidableEq

inductive WorktreeRepairFailureKind where
  | refused | managedProofChanged | permissionDenied | unsupportedGit | timeout | outputLimit
  | repairFailed | verificationFailed | recoveryAttention | operationFailed
  deriving DecidableEq

inductive WorktreeRepairBlocker where
  | noBinding | managedProofMissing | managedProofMismatch | provisioningInProgress
  | cleanupInProgress | repairInProgress | commonRepositoryUnavailable | commonRepositoryChanged
  | candidateMissing | candidateReplaced | oldPathStillPresent | candidatePathConflict
  | registrationAlreadyMatching | registrationEvidenceMissing | registrationEvidenceAmbiguous
  | branchMismatch | headMismatch | sessionAttached | worktreeLock | indexLock | permissionDenied
  | unsupportedGit | timeout | outputLimit | observationFailed | recoveryAttention
  deriving DecidableEq

structure WorktreeRepairFailure where
  kind : WorktreeRepairFailureKind
  blockers : List WorktreeRepairBlocker
  deriving DecidableEq

structure WorktreeRepairOperation where
  (operationId taskId managedWorktreeOperationId : String)
  expectedWorktreeGeneration : Nat
  candidatePath : String
  stage : WorktreeRepairStage
  failure : Option WorktreeRepairFailure := none
  (startedAt updatedAt : Nat)
  deriving DecidableEq

structure WorktreeRepairReceipt where
  (operationId taskId managedWorktreeOperationId : String)
  (previousWorktreeGeneration worktreeGeneration : Nat)
  candidatePath : String
  completedAt : Nat
  deriving DecidableEq

inductive AgentConversationReadiness where
  | unconfirmed | legacyUnknown | resumable
  deriving DecidableEq

structure AgentConversationReadinessRecord where
  sessionId : String
  readiness : AgentConversationReadiness
  deriving DecidableEq

structure CurrentState where
  revision : Nat
  projects : List ProjectRecord
  tasks : List TaskRecord
  sessions : List SessionRecord
  agentConversationReadiness : List AgentConversationReadinessRecord
  sessionArchiveOperations : List SessionArchiveOperation
  taskArchiveOperations : List TaskArchiveOperation
  taskArchiveSuspensions : List TaskArchiveSuspension
  sessionRelocationOperations : List SessionRelocationOperation
  sessionRelocationReceipts : List SessionRelocationReceipt
  provisioningOperations : List WorktreeProvisioningOperation
  managedWorktrees : List ManagedWorktreeProof
  cleanupOperations : List WorktreeCleanupOperation
  cleanupReceipts : List WorktreeCleanupReceipt
  repairOperations : List WorktreeRepairOperation
  repairReceipts : List WorktreeRepairReceipt
  staleResolutionOperations : List WorktreeStaleResolutionOperation
  staleResolutionReceipts : List WorktreeStaleResolutionReceipt
  deriving DecidableEq

def CurrentState.empty : CurrentState :=
  { revision := 0, projects := [], tasks := [], sessions := [], agentConversationReadiness := [],
    sessionArchiveOperations := [], taskArchiveOperations := [], taskArchiveSuspensions := [],
    sessionRelocationOperations := [], sessionRelocationReceipts := [],
    provisioningOperations := [], managedWorktrees := [], cleanupOperations := [],
    cleanupReceipts := [], repairOperations := [], repairReceipts := [],
    staleResolutionOperations := [], staleResolutionReceipts := [] }

inductive StoreError where
  | notFound | alreadyExists | constraintViolation | revisionConflict | sessionNotClosable
  | projectHasWorktrees
  | operationIdReused (operationId : String)
  | journalConflict (operationId : String)
  | worktreePathHeld (taskId : String)
  | branchHeld (taskId : String)
  | managedWorktreeProofChanged (taskId : String)
  | corruptRecord | io
  deriving DecidableEq

/-- What a store operation answers, and the state it leaves in memory. -/
abbrev Answer (α : Type) : Type := Outcome StoreError CurrentState α

namespace CurrentState

def session? (state : CurrentState) (id : String) : Option SessionRecord :=
  state.sessions.find? (·.id == id)

def task? (state : CurrentState) (id : String) : Option TaskRecord :=
  state.tasks.find? (·.id == id)

def project? (state : CurrentState) (id : String) : Option ProjectRecord :=
  state.projects.find? (·.id == id)

def updateSession (state : CurrentState) (id : String) (change : SessionRecord → SessionRecord) :
    CurrentState :=
  { state with sessions := updateFirst (·.id == id) change state.sessions }

def updateTask (state : CurrentState) (id : String) (change : TaskRecord → TaskRecord) :
    CurrentState :=
  { state with tasks := updateFirst (·.id == id) change state.tasks }

end CurrentState

/-- The changed state is written under the next revision; a failed write puts `previous`
    back. -/
def commitOrRestore {α : Type} (persisted : Bool) (previous changed : CurrentState) (answer : α) :
    Answer α :=
  if persisted then (.ok answer, { changed with revision := changed.revision + 1 })
  else (.error .io, previous)

def commitRevision (persisted : Bool) (previous changed : CurrentState) : Answer Nat :=
  commitOrRestore persisted previous changed (changed.revision + 1)

def operationIdOwnedByProvisioning (state : CurrentState) (operationId : String) : Bool :=
  state.provisioningOperations.any (·.operationId == operationId)
    || state.managedWorktrees.any (·.operationId == operationId)

def operationIdOwnedByCleanup (state : CurrentState) (operationId : String) : Bool :=
  state.cleanupOperations.any (fun operation =>
      operation.operationId == operationId
        || operation.managedWorktreeOperationId == operationId)
    || state.cleanupReceipts.any (fun receipt =>
      receipt.operationId == operationId || receipt.managedWorktreeOperationId == operationId)

def operationIdOwnedAnywhere (state : CurrentState) (operationId : String) : Bool :=
  state.taskArchiveOperations.any (·.operationId == operationId)
    || state.sessionArchiveOperations.any (·.operationId == operationId)
    || state.sessionRelocationOperations.any (·.operationId == operationId)
    || state.sessionRelocationReceipts.any (·.operationId == operationId)
    || operationIdOwnedByProvisioning state operationId
    || operationIdOwnedByCleanup state operationId
    || state.repairOperations.any (fun operation =>
      operation.operationId == operationId
        || operation.managedWorktreeOperationId == operationId)
    || state.repairReceipts.any (fun receipt =>
      receipt.operationId == operationId || receipt.managedWorktreeOperationId == operationId)
    || state.staleResolutionOperations.any (fun operation =>
      operation.operationId == operationId
        || operation.managedWorktreeOperationId == some operationId)
    || state.staleResolutionReceipts.any (fun receipt =>
      receipt.operationId == operationId
        || receipt.managedWorktreeOperationId == some operationId)

theorem session?_updateSession (st : CurrentState)
    (keeps : ∀ s, (change s).id = s.id) (j k : String) :
    (st.updateSession j change).session? k =
      if k = j then (st.session? k).map change else st.session? k :=
  find?_updateFirst keeps j k st.sessions

theorem task?_updateTask (st : CurrentState) (keeps : ∀ t, (change t).id = t.id) (j k : String) :
    (st.updateTask j change).task? k = if k = j then (st.task? k).map change else st.task? k :=
  find?_updateFirst keeps j k st.tasks

theorem task?_id {st : CurrentState} {id : String}
    (hit : st.task? id = some task) : task.id = id := by
  simpa using List.find?_some hit

/-- A committed change: an accepted answer, and the changed state under the next
    revision. -/
def Commits {α : Type} (answer : Answer α) (changed : CurrentState) : Prop :=
  (∃ value, answer.1 = .ok value) ∧ answer.2 = { changed with revision := changed.revision + 1 }

theorem commitOrRestore_effect (saves : Bool) (edited : CurrentState) (ans : α) :
    (commitOrRestore saves st edited ans).2 = st ∨
      Commits (commitOrRestore saves st edited ans) edited := by
  cases saves with
  | false => exact .inl rfl
  | true => exact .inr ⟨⟨ans,rfl⟩,rfl⟩

def settled {α : Type} (answer : Answer α) : Answer Unit := (answer.1.map fun _ => (), answer.2)

end TermloopStore
