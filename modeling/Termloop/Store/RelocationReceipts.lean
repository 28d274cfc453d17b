import Termloop.Lib.Runs
import Termloop.Store.ArchiveLoops
import Termloop.Store.SessionRecords

/-!
Receipts of finished relocations. A receipt repeats the directory, the launch guard
and the runtime epoch of its Session, so every operation that touches the Session
has to leave them alone, refresh the receipt or drop it. The operations are taken
in any order and with any arguments; a loop that stops early leaves what it has
already written, and the receipts are judged on that state too.
-/
namespace TermloopReceipts
open TermloopRecordLists TermloopOutcome TermloopRuns TermloopStore List
variable {tid sid opId : String} {since epoch updatedAt : Nat}
  {saves : Bool} {ans : Answer SessionRecord} {op : SessionRelocationOperation}

/-- The checkout is the target, or the place the Session leaves for the Project's root. -/
def taskWorktreeMatches (operation : SessionRelocationOperation) (session : SessionRecord)
    (task : TaskRecord) (proof : ManagedWorktreeProof) : Bool :=
  task.worktree.any fun binding =>
    binding.path == proof.registeredWorktreePath
      && match operation.target with
        | .taskWorktree => binding.path == operation.targetCwd
        | .projectRoot =>
          binding.path == operation.sourceCwd
            || session.resumeLaunchGuard.any fun guard =>
              guard.taskId == task.id && guard.path == binding.path
                && guard.managedWorktreeOperationId == proof.operationId
                && guard.worktreeGeneration == proof.worktreeGeneration

def targetMatches (operation : SessionRelocationOperation) (task : TaskRecord)
    (project : ProjectRecord) : Bool :=
  match operation.target with
  | .taskWorktree => task.status == .opened
  | .projectRoot => project.folderPath == operation.targetCwd

def relocationStands (operation : SessionRelocationOperation) (session : SessionRecord)
    (task : TaskRecord) (proof : ManagedWorktreeProof) (project : ProjectRecord)
    (runtimeEpoch : Nat) (resumeRef : ResumeRef) : Bool :=
  operation.stage == .targetStarting
    && runtimeEpoch != 0
    && runtimeEpoch != operation.sourceRuntimeEpoch
    && session.projectId == operation.projectId
    && session.runtimeEpoch == operation.sourceRuntimeEpoch
    && session.lifecycleState == "resuming"
    && session.process.cwd == operation.sourceCwd
    && session.resumeRef.any ResumeRef.validate
    && resumeRef.validate
    && providerMatchesAgent resumeRef.provider session.process.agentId
    && task.projectId == operation.projectId
    && task.archivedAt.isNone
    && task.worktreeGeneration == operation.targetWorktreeGeneration
    && taskWorktreeMatches operation session task proof
    && targetMatches operation task project
    && proof.operationId == operation.targetManagedWorktreeOperationId
    && proof.worktreeGeneration == operation.targetWorktreeGeneration
    && operation.targetCwd != operation.sourceCwd

def targetGuard (operation : SessionRelocationOperation) : Option ResumeLaunchGuard :=
  match operation.target with
  | .taskWorktree => some
      { taskId := operation.targetTaskId
        managedWorktreeOperationId := operation.targetManagedWorktreeOperationId
        worktreeGeneration := operation.targetWorktreeGeneration, path := operation.targetCwd }
  | .projectRoot => none

def relocatedSession (operation : SessionRelocationOperation) (runtimeEpoch : Nat)
    (resumeRef : ResumeRef) (session : SessionRecord) : SessionRecord :=
  { (session.moveTo operation.targetCwd (targetGuard operation)).resumed runtimeEpoch with
    resumeRef := some resumeRef }

def receiptOf (operation : SessionRelocationOperation) (runtimeEpoch : Nat) :
    SessionRelocationReceipt :=
  { operationId := operation.operationId, sessionId := operation.sessionId
    projectId := operation.projectId, target := operation.target
    targetTaskId := operation.targetTaskId, targetCwd := operation.targetCwd
    targetWorktreeGeneration := operation.targetWorktreeGeneration
    targetManagedWorktreeOperationId := operation.targetManagedWorktreeOperationId
    runtimeEpoch := runtimeEpoch }

def relocates (sessionId operationId : String) (operation : SessionRelocationOperation) : Bool :=
  operation.sessionId == sessionId && operation.operationId == operationId

def relocatedState (state : CurrentState) (operation : SessionRelocationOperation)
    (runtimeEpoch : Nat) (resumeRef : ResumeRef) : CurrentState :=
  { state.updateSession operation.sessionId (relocatedSession operation runtimeEpoch resumeRef) with
    agentConversationReadiness :=
      markResumable operation.sessionId state.agentConversationReadiness
    sessionRelocationOperations := state.sessionRelocationOperations.eraseP
      (relocates operation.sessionId operation.operationId)
    sessionRelocationReceipts := (state.sessionRelocationReceipts.filter
      (·.sessionId != operation.sessionId)) ++ [receiptOf operation runtimeEpoch] }

def commitSessionRelocation (sessionId operationId : String) (runtimeEpoch : Nat)
    (resumeRef : ResumeRef) (persisted : Bool) (state : CurrentState) : Answer SessionRecord :=
  match state.sessionRelocationOperations.find? (relocates sessionId operationId) with
  | none => (.error .notFound, state)
  | some operation =>
    match state.session? sessionId with
    | none => (.error .notFound, state)
    | some session =>
      if !state.agentConversationReadiness.any (·.sessionId == sessionId) then
        (.error .constraintViolation, state)
      else
        match state.task? operation.targetTaskId with
        | none => (.error .notFound, state)
        | some task =>
          match state.managedWorktrees.find? (·.taskId == operation.targetTaskId) with
          | none => (.error .constraintViolation, state)
          | some proof =>
            match state.project? operation.projectId with
            | none => (.error .notFound, state)
            | some project =>
              if !relocationStands operation session task proof project runtimeEpoch resumeRef then
                (.error .constraintViolation, state)
              else
                commitOrRestore persisted state
                  (relocatedState state operation runtimeEpoch resumeRef)
                  (relocatedSession operation runtimeEpoch resumeRef session)

inductive ReceiptAction where
  | commitRelocation (sessionId operationId : String) (runtimeEpoch : Nat) (resumeRef : ResumeRef)
      (persisted : Bool)
  | commitArchive (sessionId operationId : String) (archivedAt : Nat) (persisted : Bool)
  | restoreArchived (sessionId : String) (relocatedCwd : Option String) (persisted : Bool)
  | deleteArchived (sessionId : String) (persisted : Bool)
  | completeResume (sessionId : String) (expectedResumeRef : ResumeRef) (runtimeEpoch : Nat)
      (persisted : Bool)
  | finalize (taskId : String) (updatedAt : Nat) (persisted : Bool)
  | reopen (taskId : String) (updatedAt : Nat) (persisted : Bool)

def perform (state : CurrentState) : ReceiptAction → Answer Unit
  | .commitRelocation sessionId operationId runtimeEpoch resumeRef persisted =>
    settled (commitSessionRelocation sessionId operationId runtimeEpoch resumeRef persisted state)
  | .commitArchive sessionId operationId archivedAt persisted =>
    settled (commitSessionArchive sessionId operationId archivedAt persisted state)
  | .restoreArchived sessionId relocatedCwd persisted =>
    settled (restoreArchivedSessionDescriptor sessionId relocatedCwd persisted state)
  | .deleteArchived sessionId persisted =>
    settled (deleteArchivedSessionDescriptor sessionId persisted state)
  | .completeResume sessionId expectedResumeRef runtimeEpoch persisted =>
    settled (completeSessionResume sessionId expectedResumeRef runtimeEpoch persisted state)
  | .finalize taskId updatedAt persisted =>
    settled (finalizeArchivedTaskAsClosedAfterWorktreeRemoval taskId updatedAt persisted state)
  | .reopen taskId updatedAt persisted =>
    settled (reopenTaskWithSuspendedSessions taskId updatedAt persisted state)

def Step (state : CurrentState) (action : ReceiptAction) (after : CurrentState) : Prop :=
  (perform state action).2 = after

/-- Where reopening the Task puts the Session of a suspension, if it moves it. -/
def reopenTarget (state : CurrentState) (task : TaskRecord) (suspension : TaskArchiveSuspension) :
    Option (String × Option ResumeLaunchGuard) :=
  match suspension.reason, relocatedCwd state task, recreatedWorktree task with
  | .closed, some cwd, _ => some (cwd, none)
  | .closedWorktreeRemoved, _, some cwd => some (cwd, currentWorktreeGuard state cwd)
  | _, _, _ => none

/-- No receipt names a Session that is deleted, and a moved Session goes where its receipt
    says. -/
def Requires (state : CurrentState) : ReceiptAction → Prop
  | .restoreArchived sessionId relocatedCwd _ =>
    ∀ receipt ∈ state.sessionRelocationReceipts, receipt.sessionId = sessionId →
      ∀ cwd, relocatedCwd = some cwd → cwd = receipt.targetCwd
  | .deleteArchived sessionId _ =>
    ∀ receipt ∈ state.sessionRelocationReceipts, receipt.sessionId ≠ sessionId
  | .finalize taskId _ _ =>
    ∀ task archivedAt project, state.task? taskId = some task →
      task.archivedAt = some archivedAt → state.project? task.projectId = some project →
      ∀ suspension ∈ state.taskArchiveSuspensions, settles taskId archivedAt suspension = true →
      ∀ receipt ∈ state.sessionRelocationReceipts, receipt.sessionId = suspension.sessionId →
        FitsPlace state.projects receipt project.folderPath none
  | .reopen taskId _ _ =>
    ∀ task, state.task? taskId = some task →
      ∀ suspension ∈ state.taskArchiveSuspensions, parkedByClose taskId suspension = true →
      ∀ receipt ∈ state.sessionRelocationReceipts, receipt.sessionId = suspension.sessionId →
      ∀ cwd guard, reopenTarget state task suspension = some (cwd, guard) →
        FitsPlace state.projects receipt cwd guard
  | .commitRelocation _ _ _ _ _ | .commitArchive _ _ _ _ | .completeResume _ _ _ _ => True

def Safe (state : CurrentState) (action : ReceiptAction) : Prop :=
  (perform state action).2 ≠ state → Requires state action

/-- Receipts are lawful, and a relocation in progress can still be committed under its
    Session and id. -/
structure Live (state : CurrentState) : Prop where
  receipts : ReceiptsLawful state
  pending : ∀ operation ∈ state.sessionRelocationOperations, RelocationPending state operation
  distinct : state.sessionRelocationOperations.Pairwise fun a b =>
    b.sessionId ≠ a.sessionId ∧ b.operationId ≠ a.operationId

theorem live_of_accepted (accepted : Accepted state) : Live state := by
  have relocation := ((accepted_iff state).mp accepted).2.2.2.1
  simp only [relocationRecordsAreInvalid, Bool.or_eq_false_iff] at relocation
  obtain ⟨valid,nodup⟩ := (invalidRelocationOperation_eq_false state).mp relocation.1
  exact ⟨(invalidRelocationReceipt_eq_false state).mp relocation.2,
    fun op here => relocationPending_of_valid (valid op here),nodup⟩

def Answers (sessions : List SessionRecord) (id : String) (P : SessionRecord → Prop) : Prop :=
  ∃ session, (sessions.find? (·.id == id)) = some session ∧ P session

def Fits (projects : List ProjectRecord) (receipt : SessionRelocationReceipt)
    (session : SessionRecord) : Prop :=
  session.kind = .agent ∧ session.projectId = receipt.projectId
    ∧ session.runtimeEpoch = receipt.runtimeEpoch
    ∧ FitsPlace projects receipt session.process.cwd session.resumeLaunchGuard

def Standing (session : SessionRecord) : Prop :=
  session.kind = .agent ∧ session.archivedAt = none

section Answering
variable {sessions : List SessionRecord} {id : String} {P : SessionRecord → Prop}
  {state : CurrentState} {relocated recreated : Option String}

theorem answers_update {change : SessionRecord → SessionRecord}
    (keeps : ∀ sess, (change sess).id = sess.id)
    (keep : ∀ sess, (sessions.find? (·.id == id)) = some sess →
      id = sid → P sess → P (change sess)) (answers : Answers sessions id P) :
    Answers (updateFirst (·.id == sid) change sessions) id P := by
  obtain ⟨sess,hit,holds⟩ := answers
  have lookup := find?_updateFirst keeps sid id sessions
  by_cases same : id = sid
  · rw [if_pos same, hit, Option.map_some] at lookup
    exact ⟨change sess,lookup,keep sess hit same holds⟩
  · rw [if_neg same, hit] at lookup
    exact ⟨sess,lookup,holds⟩

theorem forgetAskTo_id (sess : SessionRecord) : (sess.forgetAskTo sid).id = sess.id := by
  unfold SessionRecord.forgetAskTo
  split <;> rfl

theorem answers_delete (other : id ≠ sid) (keep : ∀ sess, P sess → P (sess.forgetAskTo sid))
    (answers : Answers sessions id P) :
    Answers ((sessions.map (SessionRecord.forgetAskTo sid)).eraseP (·.id == sid)) id P := by
  obtain ⟨sess,hit,holds⟩ := answers
  refine ⟨sess.forgetAskTo sid,?_,keep sess holds⟩
  rw [find?_eraseP ?apart, find?_map]
  case apart =>
    intro sess mine theirs
    rw [beq_iff_eq] at mine theirs
    exact other (mine.symm.trans theirs)
  have sameId : ((fun sess : SessionRecord => sess.id == id) ∘
      SessionRecord.forgetAskTo sid) = (·.id == id) := by
    funext sess
    simp [forgetAskTo_id]
  rw [sameId, hit, Option.map_some]

theorem answers_settle {folder : String} {suspensions : List TaskArchiveSuspension}
    (keep : ∀ susp ∈ suspensions, settles tid since susp → id =
      susp.sessionId → ∀ sess, P sess → P (sess.moveTo folder none))
    (answers : Answers sessions id P) :
    Answers (settleSuspensions tid since folder suspensions sessions).2.2 id P := by
  induction suspensions generalizing sessions with
  | nil => exact answers
  | cons susp rest ih =>
    have later := fun s here => keep s (mem_cons_of_mem susp here)
    rw [settleSuspensions]
    by_cases hit : settles tid since susp
    · rw [if_pos hit]
      by_cases lives : (sessions.any (·.id == susp.sessionId))
      · simp only [lives, if_true]
        apply ih later
        have keeps : ∀ sess : SessionRecord, (sess.moveTo folder none).id = sess.id :=
          fun _ => rfl
        apply answers_update keeps ?keep answers
        case keep =>
          intro sess _ same holds
          exact keep susp mem_cons_self hit same sess holds
      · simp only [lives]
        exact answers
    · rw [if_neg hit]
      exact ih later answers

theorem reopenSession_effect {after : CurrentState}
    (ran : (reopenSession tid relocated recreated (state, resumable) sid).2.1 = after) :
    after = state ∨
      ∃ susp ∈ state.taskArchiveSuspensions, reopens tid sid susp ∧
        (after = state.withParked
            (state.taskArchiveSuspensions.eraseP (reopens tid sid)) state.sessions ∨
          after = state.withParked (state.taskArchiveSuspensions.eraseP (reopens tid sid))
              (updateFirst (·.id == sid) (SessionRecord.reopened relocated recreated
                  (recreated.bind (currentWorktreeGuard state)) susp) state.sessions)) := by
  subst ran
  cases hit : state.taskArchiveSuspensions.find? (reopens tid sid) with
  | none =>
    left
    simp only [reopenSession, hit]
  | some susp =>
    refine .inr ⟨susp,mem_of_find?_eq_some hit,find?_some hit,?_⟩
    cases lives : state.session? sid with
    | none =>
      left
      simp only [reopenSession, hit, lives]
      rfl
    | some sess =>
      right
      simp only [reopenSession, hit, lives]
      rfl

/-- A property that coming back from any suspension of the closed Task keeps. -/
def KeptByReopen (state : CurrentState) (taskId : String) (relocated recreated : Option String)
    (id : String) (P : SessionRecord → Prop) : Prop :=
  ∀ suspension ∈ state.taskArchiveSuspensions, parkedByClose taskId suspension = true →
    id = suspension.sessionId → ∀ session, P session →
      P (session.reopened relocated recreated (recreated.bind (currentWorktreeGuard state))
        suspension)

theorem answers_reopen {ids : List String} :
    ∃ rest next, (forEach (reopenSession tid relocated recreated) ids (state, [])).2.1 =
        state.withParked rest next ∧
      ∀ id P, KeptByReopen state tid relocated recreated id P →
        Answers state.sessions id P → Answers next id P := by
  let Inv : CurrentState × List String → Prop := fun pair =>
    ∃ rest next, pair.1 = state.withParked rest next ∧ rest.Sublist state.taskArchiveSuspensions ∧
      ∀ id P, KeptByReopen state tid relocated recreated id P →
        Answers state.sessions id P → Answers next id P
  have start : Inv (state, []) :=
    ⟨state.taskArchiveSuspensions,state.sessions,rfl,.refl _, fun _ _ _ answers => answers⟩
  have keep : ∀ pair, ∀ sid ∈ ids, Inv pair →
      Inv (reopenSession tid relocated recreated pair sid).2 := by
    rintro ⟨now,resumable⟩ sid - ⟨rest,next,shape,sub,kept⟩
    cases shape
    have shorter : (rest.eraseP (reopens tid sid)).Sublist
        state.taskArchiveSuspensions := eraseP_sublist.trans sub
    rcases reopenSession_effect rfl with same | ⟨susp,mem,hit,missing | moved⟩
    · exact ⟨rest,next,same,sub,kept⟩
    · exact ⟨_,next,missing,shorter,kept⟩
    · simp only [reopens, Bool.and_eq_true, beq_iff_eq] at hit
      refine ⟨_,_,moved,shorter,fun id P keeps answers => ?_⟩
      apply answers_update (fun sess => congrArg Prod.fst (reopened_owner _ susp sess)) ?back (kept id P keeps answers)
      case back =>
        intro sess _ same holds
        exact keeps susp (sub.subset mem) hit.2 (same.trans hit.1.symm) sess holds
  obtain ⟨rest,next,shape,-,kept⟩ := forEach_invariant keep (state, []) start
  exact ⟨rest,next,shape,kept⟩

end Answering

section Effects
variable {state : CurrentState}

theorem commitArchive_effect (ran : commitSessionArchive sid opId since saves state = ans) :
    ans.2 = state ∨
      ∃ op ∈ state.sessionArchiveOperations, op.sessionId = sid ∧
        Commits ans { state.updateSession sid (fun sess =>
            { sess.exited with archivedAt := some since }) with
          sessionArchiveOperations := state.sessionArchiveOperations.eraseP fun op =>
            op.sessionId == sid && op.operationId == opId } := by
  unfold commitSessionArchive at ran
  simp only at ran
  repeat' split at ran
  all_goals first
    | exact .inl (ran ▸ rfl)
    | skip
  rename_i op mem _ _ _ _
  have hit := both_eq (find?_some mem :)
  subst ran
  exact (commitOrRestore_effect saves _ _).imp id fun saved =>
    ⟨op,mem_of_find?_eq_some mem,hit.1,saved⟩

theorem restoreArchived_effect {relocatedCwd : Option String}
    (ran : restoreArchivedSessionDescriptor sid relocatedCwd saves state = ans) :
    ans.2 = state ∨
      Commits ans (state.updateSession sid (SessionRecord.unarchived relocatedCwd)) := by
  unfold restoreArchivedSessionDescriptor at ran
  repeat' split at ran
  all_goals first
    | exact .inl (ran ▸ rfl)
    | exact ran ▸ commitOrRestore_effect saves _ _

theorem deleteArchived_effect (ran : deleteArchivedSessionDescriptor sid saves state = ans) :
    ans.2 = state ∨
      ∃ sess, state.session? sid = some sess ∧ sess.archivedAt ≠ none ∧
        Commits ans { state with
          sessions := (state.sessions.map (SessionRecord.forgetAskTo sid)).eraseP (·.id == sid)
          agentConversationReadiness := state.agentConversationReadiness.filter
            (·.sessionId != sid) } := by
  unfold deleteArchivedSessionDescriptor at ran
  repeat' split at ran
  all_goals first
    | exact .inl (ran ▸ rfl)
    | skip
  rename_i sess hit archived
  rw [Option.isNone_iff_eq_none] at archived
  subst ran
  exact (commitOrRestore_effect saves _ _).imp id fun saved => ⟨sess,hit,archived,saved⟩

theorem completeResume_effect {ans : Answer Nat} (ran :
      completeSessionResume sid expectedResumeRef epoch saves state = ans) :
    ans.2 = state ∨
      Commits ans { state.updateSession sid (SessionRecord.resumed epoch) with
        agentConversationReadiness := markResumable sid state.agentConversationReadiness
        sessionRelocationReceipts := state.sessionRelocationReceipts.filter
          (·.sessionId != sid) } := by
  unfold completeSessionResume at ran
  repeat' split at ran
  all_goals first
    | exact .inl (ran ▸ rfl)
    | exact ran ▸ commitOrRestore_effect saves _ _

theorem finalize_effect {ans : Answer TaskRecord}
    (ran : finalizeArchivedTaskAsClosedAfterWorktreeRemoval tid updatedAt saves state = ans) :
    ans.2 = state ∨
      ∃ task since project suspensions, state.task? tid = some task ∧
        task.archivedAt = some since ∧ state.project? task.projectId = some project ∧
        let next := (settleSuspensions tid since project.folderPath
          state.taskArchiveSuspensions state.sessions).2.2
        (ans.2 = state.withParked suspensions next ∨
          Commits ans ((state.withParked suspensions next).updateTask tid
            (TaskRecord.settleClosed updatedAt))) := by
  unfold finalizeArchivedTaskAsClosedAfterWorktreeRemoval at ran
  split at ran
  · exact .inl (ran ▸ rfl)
  rename_i task hit
  split at ran
  · exact .inl (ran ▸ rfl)
  · exact .inl (ran ▸ rfl)
  · rename_i since project archived folder
    split at ran
    · exact .inl (ran ▸ rfl)
    split at ran
    · rename_i error suspensions sessions stopped
      refine .inr ⟨task,since,project,suspensions,hit,archived,folder,?_⟩
      rw [stopped]
      exact .inl (ran ▸ rfl)
    · rename_i suspensions sessions finished
      subst ran
      rcases commitOrRestore_effect saves _ _ with kept | saved
      · exact .inl kept
      · refine .inr ⟨task,since,project,suspensions,hit,archived,folder,?_⟩
        rw [finished]
        exact .inr saved

theorem reopen_effect {ans : Answer (TaskRecord × List String)}
    (ran : reopenTaskWithSuspendedSessions tid updatedAt saves state = ans) :
    ans.2 = state ∨
      ∃ task, state.task? tid = some task ∧
        let next := (forEach (reopenSession tid (relocatedCwd state task)
          (recreatedWorktree task)) (waiting tid state.taskArchiveSuspensions) (state, [])).2.1
        (ans.2 = next ∨ Commits ans (next.updateTask tid (TaskRecord.reopen updatedAt))) := by
  unfold reopenTaskWithSuspendedSessions at ran
  split at ran
  · exact .inl (ran ▸ rfl)
  rename_i task hit
  split at ran
  · exact .inl (ran ▸ rfl)
  split at ran
  · rename_i error edited stopped
    refine .inr ⟨task,hit,?_⟩
    rw [stopped]
    exact .inl (ran ▸ rfl)
  · rename_i edited finished
    subst ran
    rcases commitOrRestore_effect saves _ _ with kept | saved
    · exact .inl kept
    · refine .inr ⟨task,hit,?_⟩
      rw [finished]
      exact .inr saved

/-- The records that a committed relocation rests on. -/
structure Relocated (state : CurrentState) (operation : SessionRelocationOperation)
    (session : SessionRecord) (project : ProjectRecord) (runtimeEpoch : Nat) : Prop where
  listed : state.sessionRelocationOperations.find?
    (relocates operation.sessionId operation.operationId) = some operation
  found : state.session? operation.sessionId = some session
  owner : state.project? operation.projectId = some project
  epoch : runtimeEpoch ≠ 0
  member : session.projectId = operation.projectId
  root : operation.target = .projectRoot → project.folderPath = operation.targetCwd

theorem commitRelocation_effect
    (ran : commitSessionRelocation sid opId runtimeEpoch resumeRef saves state = ans) :
    ans.2 = state ∨
      ∃ op sess project, Relocated state op sess project runtimeEpoch ∧
        Commits ans (relocatedState state op runtimeEpoch resumeRef) := by
  unfold commitSessionRelocation at ran
  repeat' split at ran
  all_goals first
    | exact .inl (ran ▸ rfl)
    | skip
  rename_i op mem _ sess found _ _ _ _ _ _ _ _ project owner stands
  have hit := both_eq (find?_some mem :)
  simp only [relocationStands, Bool.not_eq_true', Bool.not_eq_false, Bool.and_eq_true, beq_iff_eq,
    bne_iff_ne] at stands
  obtain ⟨⟨⟨⟨⟨⟨⟨⟨⟨⟨⟨⟨⟨⟨⟨⟨⟨-,epoch⟩,-⟩,itsProject⟩,-⟩,-⟩,-⟩,-⟩,-⟩,-⟩,-⟩,-⟩,-⟩,-⟩,target⟩,
    -⟩,-⟩,-⟩ := stands
  subst ran
  refine (commitOrRestore_effect saves _ _).imp id fun saved => ?_
  rw [← hit.1, ← hit.2] at mem
  rw [← hit.1] at found
  refine ⟨op,sess,project,⟨mem,found,owner,epoch,itsProject,?_⟩,saved⟩
  intro isRoot
  simpa [targetMatches, isRoot] using target

end Effects

section Keep
variable {state after : CurrentState}

/-- What the operations leave alone, or only take records away from. -/
def TasksStayOut (state after : CurrentState) : Prop :=
  ∀ id task, state.task? id = some task → task.archivedAt = none →
    ∃ next, after.task? id = some next ∧ next.archivedAt = none

structure Frame (state after : CurrentState) : Prop where
  operations : after.sessionRelocationOperations.Sublist state.sessionRelocationOperations
  archives : after.sessionArchiveOperations.Sublist state.sessionArchiveOperations
  projects : after.projects = state.projects
  tasks : TasksStayOut state after

theorem pending_of_frame (frame : Frame state after) (pending : RelocationPending state op)
    (standing : Answers after.sessions op.sessionId Standing) :
    RelocationPending after op := by
  obtain ⟨task,hit,unarchived⟩ := pending.task
  exact ⟨pending.named,pending.short,standing,frame.tasks _ task hit unarchived,
    fun archive mem => pending.unarchiving archive (frame.archives.subset mem)⟩

theorem live_of_frame (inv : Live state) (frame : Frame state after)
    (fewer : after.sessionRelocationReceipts.Sublist state.sessionRelocationReceipts)
    (described : ∀ receipt ∈ after.sessionRelocationReceipts,
      Answers state.sessions receipt.sessionId (Fits state.projects receipt) →
      Answers after.sessions receipt.sessionId (Fits state.projects receipt))
    (standing : ∀ op ∈ after.sessionRelocationOperations,
      Answers state.sessions op.sessionId Standing →
      Answers after.sessions op.sessionId Standing) : Live after := by
  constructor
  · constructor
    · intro receipt mem
      have pre := inv.receipts.describes receipt (fewer.subset mem)
      have sess := described receipt mem pre.session
      rw [← frame.projects] at sess
      exact ⟨pre.named,pre.short,pre.live,sess⟩
    · intro receipt mem op waiting
      exact inv.receipts.settled receipt (fewer.subset mem) op (frame.operations.subset waiting)
    · exact inv.receipts.distinct.sublist fewer
  · intro op mem
    have pre := inv.pending op (frame.operations.subset mem)
    exact pending_of_frame frame pre (standing op mem pre.session)
  · exact inv.distinct.sublist frame.operations

theorem tasks_kept (same : after.tasks = state.tasks) :
    TasksStayOut state after := by
  intro id task hit unarchived
  rw [CurrentState.task?, ← same] at hit
  exact ⟨task,hit,unarchived⟩

theorem commits_live {α : Type} {ans : Answer α} {edited : CurrentState}
    (commits : Commits ans edited) (live : Live edited) : Live ans.2 := by
  rw [commits.2]
  exact live_of_frame live ⟨.refl _,.refl _,rfl,tasks_kept rfl⟩
    (.refl _) (fun _ _ answers => answers) (fun _ _ answers => answers)

theorem live_of_effect {α : Type} {ans : Answer α} {P : Prop} (inv : Live state)
    (effect : ans.2 = state ∨ P) (live : ans.2 ≠ state → P → Live ans.2) :
    Live ans.2 := by
  by_cases idle : ans.2 = state
  · rw [idle]
    exact inv
  · exact live idle (effect.resolve_left idle)

def LeavesOut (change : TaskRecord → TaskRecord) : Prop :=
  ∀ task, (change task).id = task.id ∧ (task.archivedAt = none → (change task).archivedAt = none)

theorem tasks_updated (leaves : LeavesOut change)
    (same : after.tasks = updateFirst (·.id == tid) change state.tasks) :
    TasksStayOut state after := by
  intro id task hit unarchived
  have lookup : after.task? id = if id = tid then (state.task? id).map change
      else state.task? id := by
    rw [CurrentState.task?, same]
    exact find?_updateFirst (fun task => (leaves task).1) tid id state.tasks
  rw [lookup, hit]
  by_cases own : id = tid
  · exact ⟨change task,by rw [if_pos own, Option.map_some],(leaves task).2 unarchived⟩
  · exact ⟨task,by rw [if_neg own],unarchived⟩

theorem commitArchive_live (inv : Live state) :
    Live (commitSessionArchive sid opId since saves state).2 := by
  refine live_of_effect inv (commitArchive_effect rfl) fun _ => ?_
  rintro ⟨archive,mem,named,commits⟩
  apply commits_live commits
  apply live_of_frame inv
  · exact ⟨.refl _,eraseP_sublist,rfl,tasks_kept rfl⟩
  · exact .refl _
  · intro receipt _
    exact answers_update (by intro; rfl) fun sess _ _ fits => fits
  · -- a Session under relocation has no archive operation to commit
    intro op waiting
    refine answers_update (by intro; rfl) fun sess _ same _ => ?_
    have apart := (inv.pending op waiting).unarchiving archive mem
    exact absurd (named.trans same.symm) apart

theorem restoreArchived_live {relocatedCwd : Option String} (inv : Live state)
    (safe : Safe state (.restoreArchived sid relocatedCwd saves)) :
    Live (restoreArchivedSessionDescriptor sid relocatedCwd saves state).2 := by
  refine live_of_effect inv (restoreArchived_effect rfl) fun changes commits => ?_
  have required := safe changes
  apply commits_live commits
  apply live_of_frame inv
  · exact ⟨.refl _,.refl _,rfl,tasks_kept rfl⟩
  · exact .refl _
  · intro receipt mem
    apply answers_update (by intro; rfl)
    rintro sess - same ⟨agent,project,epoch,place,target⟩
    refine ⟨agent,project,epoch,?_,target⟩
    cases moved : relocatedCwd with
    | none => simpa [SessionRecord.unarchived, moved] using place
    | some cwd =>
      simpa [SessionRecord.unarchived, moved] using required receipt mem same cwd moved
  · intro op _
    exact answers_update (by intro; rfl) fun sess _ _ standing => ⟨standing.1,rfl⟩

theorem forgetAskTo_standing (sess : SessionRecord)
    (standing : Standing sess) : Standing (sess.forgetAskTo sid) := by
  unfold SessionRecord.forgetAskTo
  split <;> exact standing

theorem deleteArchived_live (inv : Live state) (safe : Safe state (.deleteArchived sid saves)) :
    Live (deleteArchivedSessionDescriptor sid saves state).2 := by
  refine live_of_effect inv (deleteArchived_effect rfl) fun changes => ?_
  rintro ⟨sess,hit,archived,commits⟩
  have unnamed := safe changes
  apply commits_live commits
  apply live_of_frame inv
  · exact ⟨.refl _,.refl _,rfl,tasks_kept rfl⟩
  · exact .refl _
  · intro receipt mem
    refine answers_delete (unnamed receipt mem) fun sess fits => ?_
    unfold SessionRecord.forgetAskTo
    split <;> exact fits
  · -- only an archived descriptor is deleted, and none of those is under relocation
    intro op waiting
    apply answers_delete _ forgetAskTo_standing
    intro same
    obtain ⟨mine,lookup,-,unarchived⟩ := (inv.pending op waiting).session
    rw [same, hit] at lookup
    cases lookup
    exact archived unarchived

theorem completeResume_live {expectedResumeRef : ResumeRef} (inv : Live state) :
    Live (completeSessionResume sid expectedResumeRef runtimeEpoch saves state).2 := by
  refine live_of_effect inv (completeResume_effect rfl) fun _ commits => ?_
  apply commits_live commits
  apply live_of_frame inv
  · exact ⟨.refl _,.refl _,rfl,tasks_kept rfl⟩
  · exact filter_sublist
  · -- the receipts of the resumed Session are dropped with its old epoch
    intro receipt mem
    have other : receipt.sessionId ≠ sid := by
      simpa using (mem_filter.mp mem).2
    exact answers_update (by intro; rfl) fun sess _ same _ => absurd same other
  · intro op _
    exact answers_update (by intro; rfl) fun sess _ _ standing => standing

theorem updateTask_live (inv : Live state) (leaves : LeavesOut change) :
    Live (state.updateTask tid change) := by
  apply live_of_frame inv
  · exact ⟨.refl _,.refl _,rfl,tasks_updated leaves rfl⟩
  · exact .refl _
  · exact fun _ _ answers => answers
  · exact fun _ _ answers => answers

theorem live_of_loop {α : Type} {ans : Answer α} {change : TaskRecord → TaskRecord}
    (parked : Live after) (outcome : ans.2 = after ∨ Commits ans (after.updateTask tid change))
    (leaves : LeavesOut change) : Live ans.2 := by
  rcases outcome with stopped | commits
  · rw [stopped]
    exact parked
  · exact commits_live commits (updateTask_live parked leaves)

theorem finalize_live (inv : Live state) (safe : Safe state (.finalize tid updatedAt saves)) :
    Live (finalizeArchivedTaskAsClosedAfterWorktreeRemoval tid updatedAt saves state).2 := by
  refine live_of_effect inv (finalize_effect rfl) fun changes => ?_
  rintro ⟨task,since,project,suspensions,found,archived,owner,outcome⟩
  have required := safe changes
  refine live_of_loop ?_ outcome fun _ => ⟨rfl,fun _ => rfl⟩
  apply live_of_frame inv
  · exact ⟨.refl _,.refl _,rfl,tasks_kept rfl⟩
  · exact .refl _
  · intro receipt mem
    apply answers_settle
    rintro susp here hit same sess ⟨agent,member,epoch,-⟩
    exact ⟨agent,member,epoch,required task since project found archived owner
      susp here hit receipt mem same⟩
  · intro op _
    exact answers_settle fun _ _ _ _ sess standing => standing

theorem reopened_fits {projects : List ProjectRecord} {receipt : SessionRelocationReceipt}
    {task : TaskRecord} {susp : TaskArchiveSuspension}
    (place : ∀ cwd guard, reopenTarget state task susp = some (cwd, guard) →
      FitsPlace projects receipt cwd guard)
    (sess : SessionRecord) (fits : Fits projects receipt sess) :
    Fits projects receipt (sess.reopened (relocatedCwd state task) (recreatedWorktree task)
      ((recreatedWorktree task).bind (currentWorktreeGuard state)) susp) := by
  have moved : Fits projects receipt (sess.reopenPlace (relocatedCwd state task)
      (recreatedWorktree task) ((recreatedWorktree task).bind (currentWorktreeGuard state))
      susp) := by
    obtain ⟨agent,member,epoch,stays⟩ := fits
    unfold reopenTarget at place
    unfold SessionRecord.reopenPlace
    split
    · rename_i cwd reason relocated
      exact ⟨agent,member,epoch,place cwd none (by rw [reason, relocated])⟩
    · rename_i cwd reason recreated
      rw [recreated]
      exact ⟨agent,member,epoch,place cwd _ (by simp [reason, recreated, SessionRecord.moveTo])⟩
    · exact ⟨agent,member,epoch,stays⟩
  unfold SessionRecord.reopened SessionRecord.release
  split <;> exact moved

theorem reopen_live (inv : Live state) (safe : Safe state (.reopen tid updatedAt saves)) :
    Live (reopenTaskWithSuspendedSessions tid updatedAt saves state).2 := by
  refine live_of_effect inv (reopen_effect rfl) fun changes => ?_
  rintro ⟨task,found,outcome⟩
  have required := safe changes
  obtain ⟨rest,next,shape,kept⟩ := @answers_reopen tid state (relocatedCwd state task)
    (recreatedWorktree task) (waiting tid state.taskArchiveSuspensions)
  simp only [shape] at outcome
  refine live_of_loop ?_ outcome fun _ => ⟨rfl,id⟩
  apply live_of_frame inv
  · exact ⟨.refl _,.refl _,rfl,tasks_kept rfl⟩
  · exact .refl _
  · intro receipt mem
    apply kept
    intro susp here hit same
    exact reopened_fits (required task found susp here hit receipt mem same)
  · intro op _
    apply kept
    intro susp _ _ _ sess standing
    unfold SessionRecord.reopened SessionRecord.release SessionRecord.reopenPlace
    split <;> split <;> exact standing

theorem relocation_taken (inv : Live state)
    (mem : state.sessionRelocationOperations.find? (relocates op.sessionId
      op.operationId) = some op) :
    ∀ other ∈ state.sessionRelocationOperations.eraseP (relocates op.sessionId op.operationId),
      other.sessionId ≠ op.sessionId ∧ other.operationId ≠ op.operationId := by
  have symmetric : ∀ a b : SessionRelocationOperation,
      (b.sessionId ≠ a.sessionId ∧ b.operationId ≠ a.operationId) →
      a.sessionId ≠ b.sessionId ∧ a.operationId ≠ b.operationId :=
    fun _ _ apart => ⟨apart.1.symm,apart.2.symm⟩
  have front := ((perm_cons_eraseP mem).pairwise_iff (symmetric _ _)).mp inv.distinct
  exact (pairwise_cons.mp front).1

theorem receiptOf_fits (resumeRef : ResumeRef) (relocated : Relocated state op sess project epoch)
    (agent : sess.kind = .agent) :
    Fits state.projects (receiptOf op epoch) (relocatedSession op epoch resumeRef sess) := by
  refine ⟨agent,relocated.member,rfl,rfl,?_⟩
  have placed : (relocatedSession op epoch resumeRef sess).resumeLaunchGuard = targetGuard op := rfl
  rw [placed]
  cases target : op.target with
  | taskWorktree => simp [receiptOf, targetGuard, target]
  | projectRoot =>
    have here := mem_of_find?_eq_some relocated.owner
    have named : project.id = op.projectId := by
      simpa using find?_some relocated.owner
    simp only [receiptOf, targetGuard, target, true_and]
    exact ⟨project,here,named,relocated.root target⟩

theorem relocatedState_live (resumeRef : ResumeRef) (inv : Live state)
    (relocated : Relocated state op sess project epoch) :
    Live (relocatedState state op epoch resumeRef) := by
  have here := mem_of_find?_eq_some relocated.listed
  have pending := inv.pending op here
  have taken := relocation_taken inv relocated.listed
  have keeps : ∀ sess : SessionRecord,
      (relocatedSession op epoch resumeRef sess).id = sess.id := fun _ => rfl
  constructor
  · constructor
    · intro receipt mem
      rcases mem_append.mp mem with old | new
      · obtain ⟨pre,other⟩ := mem_filter.mp old
        have apart : receipt.sessionId ≠ op.sessionId := by simpa using other
        have described := inv.receipts.describes receipt pre
        exact ⟨described.named,described.short,described.live,
          answers_update keeps (fun _ _ same _ => absurd same apart) described.session⟩
      · rw [mem_singleton.mp new]
        obtain ⟨own,lookup,agent,-⟩ := pending.session
        rw [relocated.found] at lookup
        cases lookup
        have hit := session?_updateSession state keeps op.sessionId op.sessionId
        rw [if_pos rfl, relocated.found] at hit
        have fits := receiptOf_fits resumeRef relocated agent
        exact ⟨pending.named,pending.short,relocated.epoch,_,hit,fits⟩
    · intro receipt mem other waiting
      rcases mem_append.mp mem with old | new
      · exact inv.receipts.settled receipt (mem_filter.mp old).1 other (mem_of_mem_eraseP waiting)
      · rw [mem_singleton.mp new]
        exact taken other waiting
    · refine pairwise_append.mpr
        ⟨inv.receipts.distinct.sublist filter_sublist,pairwise_singleton _ _,?_⟩
      intro receipt old new isNew
      obtain ⟨pre,other⟩ := mem_filter.mp old
      rw [mem_singleton.mp isNew]
      have apart : receipt.sessionId ≠ op.sessionId := by simpa using other
      exact ⟨apart.symm,(inv.receipts.settled receipt pre op here).2⟩
  · intro other waiting
    have frame : Frame state (relocatedState state op epoch resumeRef) :=
      ⟨eraseP_sublist,.refl _,rfl,tasks_kept rfl⟩
    have pre := inv.pending other (mem_of_mem_eraseP waiting)
    apply pending_of_frame frame pre
    exact answers_update keeps (fun _ _ same _ => absurd same (taken other waiting).1) pre.session
  · exact inv.distinct.sublist eraseP_sublist

theorem commitRelocation_live (inv : Live state) :
    Live (commitSessionRelocation sid opId epoch resumeRef saves state).2 := by
  refine live_of_effect inv (commitRelocation_effect rfl) fun _ => ?_
  rintro ⟨op,sess,project,relocated,commits⟩
  exact commits_live commits (relocatedState_live resumeRef inv relocated)

theorem step_live (inv : Live state) (safe : Safe state action) (step : Step state action after) :
    Live after := by
  subst step
  cases action with
  | commitRelocation sid opId epoch resumeRef saves =>
    exact commitRelocation_live inv
  | commitArchive sid opId since saves => exact commitArchive_live inv
  | restoreArchived sid relocatedCwd saves => exact restoreArchived_live inv safe
  | deleteArchived sid saves => exact deleteArchived_live inv safe
  | completeResume sid expectedResumeRef epoch saves =>
    exact completeResume_live inv
  | finalize tid updatedAt saves => exact finalize_live inv safe
  | reopen tid updatedAt saves => exact reopen_live inv safe

/-- As long as no operation deletes a Session that a receipt names or moves it from the
    stated place, receipts describe live Sessions in every run. -/
theorem relocation_receipts_stay_true {actions : List ReceiptAction} (accepted : Accepted state)
    (run : Run (Guarded Safe Step) state actions after) :
    invalidRelocationReceipt after = false :=
  (invalidRelocationReceipt_eq_false after).mpr
    (guarded_run_invariant Live step_live run (live_of_accepted accepted)).receipts

end Keep

def movingAgent : SessionRecord :=
  { id := "agent", projectId := "project", kind := .agent
    process := { cwd := "/project", agentId := some "codex" }
    lifecycleState := "resuming", runtimeEpoch := 1
    resumeRef := some { provider := .codex, nativeSessionId := "thread" } }

def movingOperation : SessionRelocationOperation :=
  { operationId := "move", sessionId := "agent", projectId := "project", sourceRuntimeEpoch := 1
    sourceCwd := "/project", target := .taskWorktree, targetTaskId := "task"
    targetCwd := "/worktree", targetWorktreeGeneration := 1
    targetManagedWorktreeOperationId := "provision", stage := .targetStarting
    startedAt := 1, updatedAt := 1 }

def checkoutSpec : NormalizedWorktreeSpec :=
  { version := 1, repositoryRoot := "/project", repositoryCommonDir := "/project/.git"
    destinationPath := "/worktree", branchName := "topic", branchMode := .create }

def movingProof : ManagedWorktreeProof :=
  { taskId := "task", operationId := "provision", worktreeGeneration := 1
    normalizedSpecVersion := 1, normalizedSpec := checkoutSpec
    repositoryCommonDir := "/project/.git", registeredWorktreePath := "/worktree"
    branchRef := "refs/heads/topic" }

def movingState : CurrentState :=
  { CurrentState.empty with
    projects := [{ id := "project", folderPath := "/project" }]
    tasks := [{ id := "task", projectId := "project", status := .opened
                branch := some { repositoryRoot := "/project", name := "topic" }
                worktree := some { path := "/worktree" }, worktreeGeneration := 1
                updatedAt := 1 }]
    sessions := [movingAgent]
    agentConversationReadiness := [{ sessionId := "agent", readiness := .unconfirmed }]
    sessionRelocationOperations := [movingOperation]
    managedWorktrees := [movingProof] }

def cleanupOfTask : WorktreeCleanupOperation :=
  { operationId := "clean", taskId := "task", worktreeGeneration := 1
    managedWorktreeOperationId := "provision", cleanupMode := .safe
    acknowledgedContentBlockers := []
    baseline := {
      repositoryRoot := "/project", repositoryCommonDir := "/project/.git"
      worktreePath := "/worktree", registeredWorktreePath := "/worktree"
      branchRef := "refs/heads/topic", headOid := "head" }
    stage := .reserved, startedAt := 3, updatedAt := 3 }

def movedRef : ResumeRef := { provider := .codex, nativeSessionId := "thread-2" }

theorem committed_relocation_stays_true :
    ∃ after, Run (Guarded Safe Step) movingState [.commitRelocation "agent" "move" 2 movedRef true,
          .restoreArchived "agent" (some "/elsewhere") true] after ∧
      after.sessionRelocationReceipts = [receiptOf movingOperation 2] ∧
      invalidRelocationReceipt after = false := by
  have accepted : Accepted movingState := rfl
  exact exists_reached ⟨_,Run.cons ⟨fun _ => trivial,rfl⟩
    (run_single ⟨fun changes => absurd rfl changes,rfl⟩),rfl⟩
    fun _ run _ => relocation_receipts_stay_true accepted run

def movedState : CurrentState :=
  { relocatedState movingState movingOperation 2 movedRef with
    sessionArchiveOperations :=
      [{ operationId := "archive", sessionId := "agent", projectId := "project"
         runtimeEpoch := 2, state := .prepared, requestedAt := 3 }] }

/-- Deleting the archived descriptor leaves a receipt that names no Session, and the next
    start refuses the file. -/
theorem deleted_session_leaves_receipt : Accepted movedState ∧
      ∃ after, Run Step movedState
          [.commitArchive "agent" "archive" 4 true, .deleteArchived "agent" true] after ∧
        after.sessionRelocationReceipts = [receiptOf movingOperation 2] ∧
        after.session? "agent" = none ∧ invalidRelocationReceipt after = true ∧
        validateCurrentState after = .error .corruptRecord :=
  ⟨rfl,_,Run.cons rfl (run_single rfl),rfl,rfl,rfl,rfl⟩

end TermloopReceipts
