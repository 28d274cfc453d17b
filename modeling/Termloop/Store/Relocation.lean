import Termloop.Store.RelocationReceipts

/-!
The journal of Session relocations from its beginning to a failure. A relocation
holds the Task whose checkout the Session enters or leaves: it begins only while no
worktree operation and no archive of that Task is under way.
-/
namespace TermloopRelocation
open TermloopRecordLists TermloopOutcome TermloopStore TermloopReceipts List

def isRetryable : ResumeFailureReason → Bool
  | .resumeCapabilityUnavailable | .runtimeOwnershipUncertain | .resumeRejected
  | .startupTimedOut | .daemonInterrupted | .resumeQueueFull | .ptySpawnFailed
  | .cwdUnavailable | .launchReserved | .runtimeConflict => true
  | .resumeRefMissing | .invalidResumeRef | .providerSessionUnavailable
  | .providerHistoryDamaged | .providerMismatch => false

def relocationMayBegin (operation : SessionRelocationOperation) (session : SessionRecord)
    (task : TaskRecord) (proof : ManagedWorktreeProof) (project : ProjectRecord) : Bool :=
  !operation.operationId.isEmpty
    && decide (operation.operationId.utf8ByteSize ≤ 64)
    && decide (operation.startedAt > 0)
    && decide (operation.updatedAt ≥ operation.startedAt)
    && operation.stage == .sourceRetiring
    && session.kind == .agent
    && session.projectId == operation.projectId
    && session.runtimeEpoch == operation.sourceRuntimeEpoch
    && session.process.cwd == operation.sourceCwd
    && (session.lifecycleState == "running"
      || (session.lifecycleState == "resumeFailed" && session.resumeFailure.any isRetryable))
    && session.archivedAt.isNone
    && session.resumeRef.any ResumeRef.validate
    && task.projectId == operation.projectId
    && task.archivedAt.isNone
    && task.worktreeGeneration == operation.targetWorktreeGeneration
    && taskWorktreeMatches operation session task proof
    && targetMatches operation task project
    && operation.targetCwd != operation.sourceCwd
    && proof.operationId == operation.targetManagedWorktreeOperationId
    && proof.worktreeGeneration == operation.targetWorktreeGeneration

def relocationConflict (state : CurrentState) (operation : SessionRelocationOperation) : Bool :=
  state.sessionRelocationOperations.any (·.sessionId == operation.sessionId)
    || state.taskArchiveOperations.any (·.taskId == operation.targetTaskId)
    || state.provisioningOperations.any (·.taskId == operation.targetTaskId)
    || state.cleanupOperations.any (·.taskId == operation.targetTaskId)
    || state.repairOperations.any (·.taskId == operation.targetTaskId)
    || state.staleResolutionOperations.any (·.taskId == operation.targetTaskId)
    || state.sessionArchiveOperations.any (·.sessionId == operation.sessionId)

/-- What a relocation that begins leaves: the Session waits to resume elsewhere. -/
def retiringState (state : CurrentState) (operation : SessionRelocationOperation) :
    CurrentState :=
  { state.updateSession operation.sessionId (fun session =>
      { session with lifecycleState := "resuming", resumeFailure := none }) with
    sessionRelocationReceipts := state.sessionRelocationReceipts.filter
      (·.sessionId != operation.sessionId)
    sessionRelocationOperations := state.sessionRelocationOperations ++ [operation] }

def beginSessionRelocation (operation : SessionRelocationOperation) (persisted : Bool)
    (state : CurrentState) : Answer Nat :=
  match state.sessionRelocationOperations.find? (·.operationId == operation.operationId) with
  | some current =>
    if current == operation then (.ok state.revision, state)
    else (.error (.operationIdReused operation.operationId), state)
  | none =>
    if state.sessionRelocationReceipts.any (·.operationId == operation.operationId) then
      (.error (.operationIdReused operation.operationId), state)
    else if operationIdOwnedAnywhere state operation.operationId then
      (.error (.operationIdReused operation.operationId), state)
    else
      match state.session? operation.sessionId with
      | none => (.error .notFound, state)
      | some session =>
        match state.task? operation.targetTaskId with
        | none => (.error .notFound, state)
        | some task =>
          match state.managedWorktrees.find? (·.taskId == operation.targetTaskId) with
          | none => (.error .constraintViolation, state)
          | some proof =>
            match state.project? operation.projectId with
            | none => (.error .notFound, state)
            | some project =>
              if !(relocationMayBegin operation session task proof project
                  && !relocationConflict state operation) then (.error .constraintViolation, state)
              else commitRevision persisted state (retiringState state operation)

def markSessionRelocationTargetStarting (sessionId operationId : String) (updatedAt : Nat)
    (persisted : Bool) (state : CurrentState) : Answer Nat :=
  match state.sessionRelocationOperations.find? (relocates sessionId operationId) with
  | none => (.error .notFound, state)
  | some operation =>
    if operation.stage == .targetStarting then (.ok state.revision, state)
    else if operation.stage != .sourceRetiring || decide (updatedAt < operation.updatedAt) then
      (.error .constraintViolation, state)
    else
      commitRevision persisted state
        { state with
          sessionRelocationOperations :=
            updateFirst (relocates sessionId operationId)
              (fun operation => { operation with stage := .targetStarting, updatedAt := updatedAt })
              state.sessionRelocationOperations }

def failResume (failure : ResumeFailureReason) (session : SessionRecord) :
    SessionRecord :=
  { session with lifecycleState := "resumeFailed", resumeFailure := some failure }

/-- A relocation that is gone has failed if its Session shows the same failure. -/
def failSessionRelocation (sessionId operationId : String) (failure : ResumeFailureReason)
    (persisted : Bool) (state : CurrentState) : Answer SessionRecord :=
  match state.sessionRelocationOperations.find? (relocates sessionId operationId),
      state.session? sessionId with
  | none, none => (.error .notFound, state)
  | none, some session =>
    if session.lifecycleState == "resumeFailed" && session.resumeFailure == some failure then
      (.ok session, state)
    else (.error .notFound, state)
  | some _, none => (.error .notFound, state)
  | some operation, some session =>
    if session.projectId != operation.projectId
        || session.process.cwd != operation.sourceCwd
        || session.runtimeEpoch != operation.sourceRuntimeEpoch then
      (.error .constraintViolation, state)
    else
      commitOrRestore persisted state
        { state.updateSession sessionId (failResume failure) with
          sessionRelocationOperations :=
            state.sessionRelocationOperations.eraseP (relocates sessionId operationId) }
        (failResume failure session)

/-- A Session without its lifecycle state and its failure. -/
def placed (session : SessionRecord) : SessionRecord :=
  { session with lifecycleState := "", resumeFailure := none }

/-- A relocation without a commit changes only its Session's lifecycle, failure and own
    receipt. -/
structure RolledBack (id : String) (before after : CurrentState) : Prop where
  sessions : after.sessions.map placed = before.sessions.map placed
  others : after.sessions.filter (·.id != id) =
    before.sessions.filter (·.id != id)
  tasks : after.tasks = before.tasks
  receipts : after.sessionRelocationReceipts.filter (·.sessionId != id) =
    before.sessionRelocationReceipts.filter (·.sessionId != id)

def recorded (operation : SessionRelocationOperation) : SessionRelocationOperation :=
  { operation with stage := .sourceRetiring, updatedAt := 0 }

def Holds (operation : SessionRelocationOperation) (state : CurrentState) : Prop :=
  ∃ current, state.sessionRelocationOperations.find?
      (relocates operation.sessionId operation.operationId) = some current ∧
    recorded current = recorded operation

section Endings
variable {id : String} {st edited : CurrentState} {op : SessionRelocationOperation}

theorem rolledBack_refl (id : String) (st : CurrentState) : RolledBack id st st :=
  ⟨rfl,rfl,rfl,rfl⟩

theorem rolledBack_trans (first : RolledBack id a b)
    (second : RolledBack id b c) : RolledBack id a c :=
  ⟨second.sessions.trans first.sessions,second.others.trans first.others,
    second.tasks.trans first.tasks,second.receipts.trans first.receipts⟩

theorem rolledBack_commit (saves : Bool) (ans : α) (kept : RolledBack id st edited) :
    RolledBack id st (commitOrRestore saves st edited ans).2 := by
  rcases commitOrRestore_effect saves edited ans with same | saved
  · exact same ▸ rolledBack_refl id st
  · exact saved.2 ▸ ⟨kept.sessions,kept.others,kept.tasks,kept.receipts⟩

theorem rolledBack_updateSession (id : String) (st : CurrentState)
    (change : SessionRecord → SessionRecord) (keeps : ∀ sess, placed (change sess) = placed sess) :
    RolledBack id st (st.updateSession id change) := by
  refine ⟨map_updateFirst keeps _,filter_ne_updateFirst (fun sess => ?_) id _,rfl,rfl⟩
  have same : (placed (change sess)).id = (placed sess).id := by rw [keeps]
  exact same

theorem begin_rolledBack (op : SessionRelocationOperation) (saves : Bool) :
    RolledBack op.sessionId st (beginSessionRelocation op saves st).2 := by
  unfold beginSessionRelocation
  split
  · split <;> exact rolledBack_refl _ _
  repeat' first | exact rolledBack_refl _ _ | split
  apply rolledBack_commit
  obtain ⟨sessions,others,tasks,-⟩ := rolledBack_updateSession op.sessionId st
    (fun sess => { sess with lifecycleState := "resuming", resumeFailure := none })
    fun _ => rfl
  refine ⟨sessions,others,tasks,?_⟩
  rw [retiringState, filter_filter]
  simp

theorem fail_rolledBack (opId : String) (failure : ResumeFailureReason) (saves : Bool) :
    RolledBack id st (failSessionRelocation id opId failure saves st).2 := by
  unfold failSessionRelocation
  repeat' first | exact rolledBack_refl _ _ | split
  apply rolledBack_commit
  obtain ⟨sessions,others,tasks,receipts⟩ :=
    rolledBack_updateSession id st (failResume failure) fun _ => rfl
  exact ⟨sessions,others,tasks,receipts⟩

theorem mark_rolledBack (sid opId : String) (now : Nat) (saves : Bool) :
    RolledBack id st (markSessionRelocationTargetStarting sid opId now saves st).2 := by
  unfold markSessionRelocationTargetStarting
  repeat' first | exact rolledBack_refl _ _ | split
  exact rolledBack_commit saves _ ⟨rfl,rfl,rfl,rfl⟩

theorem mark_holds (held : Holds op st) : Holds op
      (markSessionRelocationTargetStarting sid opId now saves st).2 := by
  unfold markSessionRelocationTargetStarting
  repeat' first | exact held | split
  cases saves with
  | false => exact held
  | true =>
    obtain ⟨cur,hit,same⟩ := held
    have there : (updateFirst (relocates sid opId) (fun op =>
        { op with stage := .targetStarting, updatedAt := now })
        st.sessionRelocationOperations).find? (relocates op.sessionId op.operationId) = _ :=
      @find?_updateFirst SessionRelocationOperation _ _
        (fun cur => (cur.sessionId, cur.operationId)) _ _ _ (by intro; rfl)
        (sid, opId) (op.sessionId, op.operationId) _
    simp only [Holds, commitRevision, commitOrRestore, if_true, there]
    split
    · exact ⟨_,congrArg (Option.map _) hit,same⟩
    · exact ⟨cur,hit,same⟩

theorem begin_holds (begun : (beginSessionRelocation op saves st).1 = .ok revision) :
    Holds op (beginSessionRelocation op saves st).2 := by
  generalize ran : beginSessionRelocation op saves st = ans at begun ⊢
  unfold beginSessionRelocation at ran
  split at ran
  · next cur hit =>
    split at ran <;> subst ran
    · next same =>
      cases beq_iff_eq.mp same
      obtain ⟨-,front,back,shape,earlier⟩ := find?_eq_some_iff_append.mp hit
      refine ⟨op,find?_eq_some_iff_append.mpr ⟨by simp [relocates],front,back,shape,
        fun other member => ?_⟩,rfl⟩
      have apart := earlier other member
      simp_all [relocates]
    · cases begun
  · next missing =>
    iterate 7
      split at ran
      · subst ran
        cases begun
    subst ran
    cases saves with
    | false => cases begun
    | true =>
      refine ⟨op,?_,rfl⟩
      have none_ : st.sessionRelocationOperations.find?
          (relocates op.sessionId op.operationId) = none := by
        rw [find?_eq_none] at missing ⊢
        simp_all [relocates]
      simp only [commitRevision, commitOrRestore, retiringState, if_true]
      rw [find?_append, none_]
      simp [relocates]

end Endings

def markEach (marks : List (String × String × Nat × Bool)) (state : CurrentState) : CurrentState :=
  marks.foldl (fun state mark => (markSessionRelocationTargetStarting mark.1 mark.2.1 mark.2.2.1
    mark.2.2.2 state).2) state

theorem marked (id : String) (marks : List (String × String × Nat × Bool)) (held : Holds op st) :
    RolledBack id st (markEach marks st) ∧ Holds op (markEach marks st) := by
  induction marks generalizing st with
  | nil => exact ⟨rolledBack_refl id st,held⟩
  | cons mark rest ih =>
    obtain ⟨kept,holds⟩ := ih (mark_holds held)
    exact ⟨rolledBack_trans (mark_rolledBack ..) kept,holds⟩

theorem relocation_rolls_back_or_arrives {operation : SessionRelocationOperation}
    {persisted : Bool} {state : CurrentState} {revision : Nat}
    (begun : (beginSessionRelocation operation persisted state).1 = .ok revision)
    (marks : List (String × String × Nat × Bool)) :
    let started := markEach marks (beginSessionRelocation operation persisted state).2
    (∀ failure persisted, RolledBack operation.sessionId state (failSessionRelocation
      operation.sessionId operation.operationId failure persisted started).2) ∧
    ∀ runtimeEpoch resumeRef persisted session after,
      commitSessionRelocation operation.sessionId operation.operationId runtimeEpoch resumeRef
        persisted started = (.ok session, after) →
      after.session? operation.sessionId = some session ∧
        session.process.cwd = operation.targetCwd ∧
        session.resumeLaunchGuard = targetGuard operation ∧
        after.sessionRelocationOperations = started.sessionRelocationOperations.eraseP
          (relocates operation.sessionId operation.operationId) ∧
        after.sessionRelocationReceipts.filter (fun receipt =>
          receipt.sessionId == operation.sessionId) = [receiptOf operation runtimeEpoch] := by
  intro started
  obtain ⟨kept,current,listed,same⟩ := marked operation.sessionId marks (begin_holds begun)
  have before := rolledBack_trans (begin_rolledBack operation persisted) kept
  refine ⟨fun failure persisted => rolledBack_trans before (fail_rolledBack _ failure persisted),?_⟩
  intro runtimeEpoch resumeRef persisted session after ran
  unfold commitSessionRelocation at ran
  rw [show started.sessionRelocationOperations.find? _ = some current from listed] at ran
  dsimp only at ran
  split at ran
  · cases ran
  next old found =>
  iterate 5
    split at ran
    · cases ran
  cases persisted with
  | false => cases ran
  | true =>
    cases ran
    have session : current.sessionId = operation.sessionId := congrArg (·.sessionId) same
    have name : current.operationId = operation.operationId := congrArg (·.operationId) same
    have guard : targetGuard (recorded current) = targetGuard (recorded operation) := by rw [same]
    have receipt : receiptOf (recorded current) runtimeEpoch =
        receiptOf (recorded operation) runtimeEpoch := by rw [same]
    refine ⟨?_,congrArg (·.targetCwd) same,guard,by rw [← session, ← name]; rfl,?_⟩
    · have moved : (started.updateSession operation.sessionId
          (relocatedSession current runtimeEpoch resumeRef)).session? operation.sessionId = _ :=
        session?_updateSession started (by intro; rfl) operation.sessionId operation.sessionId
      rw [if_pos rfl, found] at moved
      rw [← session] at moved ⊢
      exact moved
    · change ((started.sessionRelocationReceipts.filter (·.sessionId != current.sessionId)) ++
          [receiptOf (recorded current) runtimeEpoch]).filter _ = _
      rw [receipt, session, filter_append, filter_filter]
      simp [receiptOf, recorded]

def settledState : CurrentState := relocatedState movingState movingOperation 2 movedRef

def leavingOperation : SessionRelocationOperation :=
  { movingOperation with
    operationId := "leave", sourceRuntimeEpoch := 2, sourceCwd := "/worktree"
    target := .projectRoot, targetCwd := "/project", stage := .sourceRetiring }

theorem failed_relocation_keeps_agent :
    RolledBack "agent" settledState (failSessionRelocation "agent" "leave" .startupTimedOut true
      (beginSessionRelocation leavingOperation true settledState).2).2 :=
  (@relocation_rolls_back_or_arrives leavingOperation true settledState 1 rfl []).1 _ _

/-- The Session's own receipt of an earlier relocation does not come back. -/
theorem failed_relocation_loses_receipt :
    Accepted settledState ∧ settledState.sessionRelocationReceipts = [receiptOf movingOperation 2] ∧
      (beginSessionRelocation leavingOperation true settledState).1 = .ok 1 ∧
      (failSessionRelocation "agent" "leave" .startupTimedOut true
        (beginSessionRelocation leavingOperation true settledState).2).2.sessionRelocationReceipts =
          [] :=
  ⟨rfl,rfl,rfl,rfl⟩

end TermloopRelocation
