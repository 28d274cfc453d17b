import Termloop.Lib.Runs
import Termloop.Store.ArchiveLoops
import Termloop.Store.Provisioning

/-!
The lifecycle of parked Sessions over whole runs of the store: closing, archiving,
settling a removed checkout, provisioning a new one and reopening, in any order
and with any arguments. The rule of a suspension's reason is a tie between the
suspension and one Task, so each operation is judged by what it does to that Task.
-/
namespace TermloopParked
open TermloopRecordLists TermloopOutcome TermloopRuns TermloopStore List
variable {tid opId : String} {saves : Bool} {ans : Answer TaskRecord}
  {updatedAt : Nat}

inductive ParkedAction where
  | closeTask (taskId : String) (targets : List TaskArchiveTarget) (closedAt : Nat)
      (persisted : Bool)
  | beginArchive (operation : TaskArchiveOperation) (persisted : Bool)
  | commitArchive (taskId operationId : String) (archivedAt : Nat) (persisted : Bool)
  | finalize (taskId : String) (updatedAt : Nat) (persisted : Bool)
  | beginProvisioning (operation : WorktreeProvisioningOperation) (persisted : Bool)
  | advanceProvisioning (taskId operationId : String) (stage : ProvisioningStage)
      (createdBranchRef : Bool) (updatedAt : Nat) (persisted : Bool)
  | commitProvisioning (taskId operationId : String) (commit : ProvisioningCommit)
      (persisted : Bool)
  | reopen (taskId : String) (updatedAt : Nat) (persisted : Bool)

def perform (state : CurrentState) : ParkedAction → Answer Unit
  | .closeTask taskId targets closedAt persisted =>
    settled (closeTaskWithSuspendedSessions taskId targets closedAt persisted state)
  | .beginArchive operation persisted => settled (beginTaskArchive operation persisted state)
  | .commitArchive taskId operationId archivedAt persisted =>
    settled (commitTaskArchive taskId operationId archivedAt persisted state)
  | .finalize taskId updatedAt persisted =>
    settled (finalizeArchivedTaskAsClosedAfterWorktreeRemoval taskId updatedAt persisted state)
  | .beginProvisioning operation persisted =>
    settled (beginTaskWorktreeProvisioning operation persisted state)
  | .advanceProvisioning taskId operationId stage createdBranchRef updatedAt persisted =>
    settled (advanceTaskWorktreeProvisioning taskId operationId stage createdBranchRef updatedAt
      persisted state)
  | .commitProvisioning taskId operationId commit persisted =>
    settled (commitTaskWorktreeProvisioning taskId operationId commit persisted state)
  | .reopen taskId updatedAt persisted =>
    settled (reopenTaskWithSuspendedSessions taskId updatedAt persisted state)

def Step (state : CurrentState) (action : ParkedAction) (after : CurrentState) : Prop :=
  (perform state action).2 = after

/-- A Task other than the one found under the id follows the suspension's rule. -/
def ParkedElsewhere (state : CurrentState) (taskId : String)
    (suspension : TaskArchiveSuspension) : Prop :=
  ∃ task ∈ state.tasks, state.task? taskId ≠ some task ∧
    state.projectOf suspension.sessionId = some task.projectId ∧ Follows task suspension

/-- Where a target means some Session of the Project, its id finds one. Unique ids give this
    for free. -/
def Addressed (state : CurrentState) (projectId : String) (target : TaskArchiveTarget) : Prop :=
  targetUnavailable state projectId target = false →
    state.projectOf target.sessionId = some projectId

/-- Archiving a Task or giving it a worktree must not take the ground from Agents parked by
    its checkout's removal; settling a removal must not leave an unnamed suspension of the
    archive. -/
def Requires (state : CurrentState) : ParkedAction → Prop
  | .closeTask taskId targets _ _ => ∀ task, state.task? taskId = some task →
      ∀ target ∈ targets, Addressed state task.projectId target
  | .commitArchive taskId operationId _ _ =>
      (∀ operation ∈ state.taskArchiveOperations, operation.taskId = taskId →
        operation.operationId = operationId →
        ∀ target ∈ operation.targets, Addressed state operation.projectId target) ∧
      ∀ suspension ∈ state.taskArchiveSuspensions, suspension.reason = .closedWorktreeRemoved →
        ParkedElsewhere state taskId suspension
  | .finalize taskId _ _ => ∀ task, state.task? taskId = some task →
      ∀ suspension ∈ state.taskArchiveSuspensions,
        (suspension.taskId = none → suspension.reason = .archived →
          ParkedElsewhere state taskId suspension) ∧
        (suspension.taskId = some taskId → task.archivedAt = some suspension.archivedAt →
          state.projectOf suspension.sessionId = some task.projectId)
  | .commitProvisioning taskId _ _ _ =>
      ∀ suspension ∈ state.taskArchiveSuspensions, suspension.reason = .closedWorktreeRemoved →
        ParkedElsewhere state taskId suspension
  | .beginArchive _ _ | .beginProvisioning _ _ | .advanceProvisioning _ _ _ _ _ _
  | .reopen _ _ _ => True

def Safe (state : CurrentState) (action : ParkedAction) : Prop :=
  (perform state action).1 = .ok () → Requires state action

/-- Suspensions follow their rule, and an archive in progress belongs to its Task's Project.
    -/
structure Loadable (state : CurrentState) : Prop where
  parked : ∀ suspension ∈ state.taskArchiveSuspensions, Parked state suspension
  operations : ∀ operation ∈ state.taskArchiveOperations, ∃ task,
    state.task? operation.taskId = some task ∧ task.projectId = operation.projectId

theorem loadable_of_accepted (accepted : Accepted state) : Loadable state := by
  have archive := ((accepted_iff state).mp accepted).2.2.1
  simp only [archiveRecordsAreInvalid, Bool.or_eq_false_iff] at archive
  have parked := ((invalidSuspension_eq_false state).mp archive.2).1
  have lawful := ((invalidTaskArchiveOperation_eq_false state).mp archive.1.2).1
  refine ⟨parked,fun op here => ?_⟩
  obtain ⟨task,own⟩ := (lawful op here).task
  exact ⟨task,own.found,own.project⟩

section OneTask
variable {state after : CurrentState} {change : TaskRecord → TaskRecord}
  {susp : TaskArchiveSuspension}

theorem parked_cases {task : TaskRecord} (hit : state.task? tid = some task)
    (parked : Parked state susp) : ParkedElsewhere state tid susp ∨
      state.projectOf susp.sessionId = some task.projectId ∧ Follows task susp := by
  obtain ⟨other,here,project,follows⟩ := parked
  by_cases own : state.task? tid = some other
  · rw [hit] at own
    cases own
    exact .inr ⟨project,follows⟩
  · exact .inl ⟨other,here,own,project,follows⟩

def KeepsIdentity (change : TaskRecord → TaskRecord) : Prop :=
  ∀ task, (change task).id = task.id ∧ (change task).projectId = task.projectId

theorem loadable_of_change {task : TaskRecord} (inv : Loadable state)
    (hit : state.task? tid = some task)
    (tasks : after.tasks = updateFirst (·.id == tid) change state.tasks)
    (keeps : KeepsIdentity change)
    (owners : after.sessions.map SessionRecord.owner = state.sessions.map SessionRecord.owner)
    (fewer : after.taskArchiveOperations ⊆ state.taskArchiveOperations)
    (each : ∀ susp ∈ after.taskArchiveSuspensions, ParkedElsewhere state tid susp ∨
        state.projectOf susp.sessionId = some task.projectId ∧
          Follows (change task) susp) : Loadable after := by
  constructor
  · intro susp here
    rcases each susp here with ⟨other,mem,apart,project,follows⟩ | ⟨project,follows⟩
    · refine ⟨other,?_,by rw [projectOf_owners owners, project],follows⟩
      rw [tasks]
      exact (mem_updateFirst_of_mem mem).resolve_right apart
    · refine ⟨change task,?_,by rw [projectOf_owners owners, project, (keeps task).2],follows⟩
      rw [tasks]
      exact changed_mem_updateFirst hit
  · intro op here
    obtain ⟨own,lookup,project⟩ := inv.operations op (fewer here)
    have looked : after.task? op.taskId = if op.taskId = tid then (state.task? op.taskId).map change
        else state.task? op.taskId := by
      rw [CurrentState.task?, tasks]
      exact find?_updateFirst (fun task => (keeps task).1) tid op.taskId state.tasks
    rw [lookup] at looked
    by_cases same : op.taskId = tid
    · exact ⟨change own,by rw [looked, if_pos same, Option.map_some],(keeps own).2.trans project⟩
    · exact ⟨own,by rw [looked, if_neg same],project⟩

theorem available_session (available : targetUnavailable state pid target = false) :
    ∃ sess ∈ state.sessions, sess.id = target.sessionId := by
  simp only [targetUnavailable, Bool.or_eq_false_iff, Bool.not_eq_false', any_eq_true,
    Bool.and_eq_true, beq_iff_eq] at available
  obtain ⟨-,sess,here,⟨id,-⟩,-⟩ := available
  exact ⟨sess,here,id⟩

end OneTask

section Effects
variable {state : CurrentState}

theorem closeTask_effect
    (ran : closeTaskWithSuspendedSessions tid targets closedAt saves state = ans) :
    ans.2 = state ∨
      ∃ task next, state.task? tid = some task ∧ task.status = .opened ∧
        task.archivedAt = none ∧
        (∀ target ∈ targets, targetUnavailable state task.projectId target = false) ∧
        next.map SessionRecord.descriptor = state.sessions.map SessionRecord.descriptor ∧
        Commits ans ((state.withParked (state.taskArchiveSuspensions ++
          targets.map (suspensionOf tid closedAt .closed)) next).updateTask tid
            (TaskRecord.setStatus .closed closedAt)) := by
  unfold closeTaskWithSuspendedSessions at ran
  split at ran
  · exact .inl (ran ▸ rfl)
  rename_i task hit
  iterate 2 (split at ran; · exact .inl (ran ▸ rfl))
  rename_i refused
  simp only [Bool.or_eq_true, not_or, bne_iff_ne, ne_eq, Decidable.not_not,
    Bool.not_eq_true, Option.isSome_eq_false_iff, Option.isNone_iff_eq_none] at refused
  obtain ⟨⟨opened,unarchived⟩,allowed⟩ := refused
  have checks : (∀ target ∈ targets, targetUnavailable state task.projectId target = false) ∧
      targets.Pairwise fun a b => b.sessionId ≠ a.sessionId := by
    apply (anyWithLater_eq_false ?_ targets).mp allowed
    intro target later
    simp [and_comm]
  have each := fun target mem => available_session (checks.1 target mem)
  obtain ⟨next,finished,same⟩ := parkTargets_spec each
  rw [finished] at ran
  subst ran
  exact (commitOrRestore_effect saves _ _).imp_right fun saved =>
    ⟨task,next,hit,opened,unarchived,checks.1,same,saved⟩

theorem beginArchive_effect {ans : Answer Nat} (ran : beginTaskArchive op saves state = ans) :
    ans.2 = state ∨
      ∃ task, state.task? op.taskId = some task ∧ task.projectId = op.projectId ∧
        Commits ans { state with
          taskArchiveOperations := state.taskArchiveOperations ++ [op] } := by
  unfold beginTaskArchive at ran
  split at ran
  · exact .inl (ran ▸ rfl)
  rename_i task hit
  split at ran
  · exact .inl (ran ▸ rfl)
  rename_i refused
  simp only [Bool.or_eq_true, not_or, bne_iff_ne, ne_eq, Decidable.not_not] at refused
  subst ran
  exact (commitOrRestore_effect saves _ _).imp_right fun saved =>
    ⟨task,hit,refused.1.1.1.2,saved⟩

theorem commitArchive_effect {ans : Answer Nat}
    (ran : commitTaskArchive tid opId now saves state = ans) :
    ans.2 = state ∨
      ∃ op ∈ state.taskArchiveOperations, ∃ task next, op.taskId = tid ∧ op.operationId = opId ∧
        state.task? tid = some task ∧ task.archivedAt = none ∧
        (∀ target ∈ op.targets, targetUnavailable state op.projectId target = false) ∧
        next.map SessionRecord.descriptor = state.sessions.map SessionRecord.descriptor ∧
        Commits ans { (state.withParked (state.taskArchiveSuspensions ++
            op.targets.map (suspensionOf tid now .archived)) next).updateTask
              tid (TaskRecord.archive now) with
          taskArchiveOperations := state.taskArchiveOperations.eraseP fun op =>
            op.taskId == tid && op.operationId == opId } := by
  unfold commitTaskArchive at ran
  simp only at ran
  split at ran
  · exact .inl (ran ▸ rfl)
  rename_i op mem
  have hit := both_eq (find?_some mem :)
  split at ran
  · exact .inl (ran ▸ rfl)
  rename_i task found
  split at ran
  · exact .inl (ran ▸ rfl)
  rename_i refused
  simp only [Bool.or_eq_true, not_or, Bool.not_eq_true, Option.isSome_eq_false_iff,
    Option.isNone_iff_eq_none, any_eq_false] at refused
  have available : ∀ target ∈ op.targets, targetUnavailable state op.projectId target = false := by
    intro target here
    simpa using refused.2 target here
  have each := fun target here => available_session (available target here)
  obtain ⟨next,finished,same⟩ := parkTargets_spec each
  rw [finished] at ran
  subst ran
  exact (commitOrRestore_effect saves _ _).imp_right fun saved =>
    ⟨op,mem_of_find?_eq_some mem,task,next,hit.1,hit.2,found,refused.1, available,same,saved⟩

theorem parked_lives (parked : Parked state susp) :
    (state.sessions.any (·.id == susp.sessionId)) := by
  obtain ⟨task,-,project,-⟩ := parked
  obtain ⟨sess,hit,-⟩ := Option.map_eq_some_iff.mp project
  exact any_eq_true.mpr ⟨sess,mem_of_find?_eq_some hit,(find?_some hit :)⟩

theorem finalize_effect (parked : ∀ susp ∈ state.taskArchiveSuspensions, Parked state susp)
    (ran : finalizeArchivedTaskAsClosedAfterWorktreeRemoval tid updatedAt saves state = ans) :
    ans.2 = state ∨
      ∃ task now next, state.task? tid = some task ∧
        task.archivedAt = some now ∧ task.worktree = none ∧
        next.map SessionRecord.owner = state.sessions.map SessionRecord.owner ∧
        Commits ans ((state.withParked (state.taskArchiveSuspensions.map
          (TaskArchiveSuspension.settle tid now)) next).updateTask tid
            (TaskRecord.settleClosed updatedAt)) := by
  unfold finalizeArchivedTaskAsClosedAfterWorktreeRemoval at ran
  split at ran
  · exact .inl (ran ▸ rfl)
  rename_i task hit
  split at ran
  · exact .inl (ran ▸ rfl)
  · exact .inl (ran ▸ rfl)
  · rename_i now project archived folder
    split at ran
    · exact .inl (ran ▸ rfl)
    rename_i refused
    simp only [Bool.or_eq_true, not_or, Bool.not_eq_true, Option.isSome_eq_false_iff,
      Option.isNone_iff_eq_none] at refused
    have each : ∀ susp ∈ state.taskArchiveSuspensions, settles tid now susp →
        (state.sessions.any (·.id == susp.sessionId)) :=
      fun susp here _ => parked_lives (parked susp here)
    obtain ⟨next,finished,same⟩ := settleSuspensions_spec each
    rw [finished] at ran
    subst ran
    exact (commitOrRestore_effect saves _ _).imp_right fun saved =>
      ⟨task,now,next,hit,archived,refused.1.1.1.1,same,saved⟩

theorem reopen_effect {ans : Answer (TaskRecord × List String)}
    (parked : ∀ susp ∈ state.taskArchiveSuspensions, Parked state susp)
    (ran : reopenTaskWithSuspendedSessions tid updatedAt saves state = ans) :
    ans.2 = state ∨
      ∃ task rest next, state.task? tid = some task ∧ task.archivedAt = none ∧
        rest.Sublist state.taskArchiveSuspensions ∧
        (∀ susp ∈ rest, parkedByClose tid susp = false) ∧
        next.map SessionRecord.owner = state.sessions.map SessionRecord.owner ∧
        Commits ans ((state.withParked rest next).updateTask tid
          (TaskRecord.reopen updatedAt)) := by
  unfold reopenTaskWithSuspendedSessions at ran
  split at ran
  · exact .inl (ran ▸ rfl)
  rename_i task hit
  split at ran
  · exact .inl (ran ▸ rfl)
  rename_i refused
  simp only [Bool.or_eq_true, not_or, Bool.not_eq_true, Option.isSome_eq_false_iff,
    Option.isNone_iff_eq_none] at refused
  obtain ⟨rest,next,resumable,finished,sub,consumed,same⟩ :=
    reopenSessions_spec tid (relocatedCwd state task) (recreatedWorktree task)
      fun susp here => parked_lives (parked susp here)
  rw [finished] at ran
  subst ran
  exact (commitOrRestore_effect saves _ _).imp_right fun saved =>
    ⟨task,rest,next,hit,refused.2,sub,consumed,same,saved⟩

def OnlyProvisionings (state after : CurrentState) : Prop :=
  ∃ operations revision,
    after = { state with provisioningOperations := operations, revision := revision }

theorem commitProvisioning_effect
    (ran : commitTaskWorktreeProvisioning tid opId commit saves state = ans) :
    ans.2 = state ∨ ∃ task proofs operations, state.task? tid = some task ∧ Commits ans
      { state.updateTask tid (TaskRecord.bind commit) with
        managedWorktrees := proofs, provisioningOperations := operations } := by
  unfold commitTaskWorktreeProvisioning at ran
  simp only at ran
  repeat' split at ran
  all_goals first
    | exact .inl (ran ▸ rfl)
    | skip
  rename_i task hit _ _ _ _
  subst ran
  exact (commitOrRestore_effect saves _ _).imp_right fun saved => ⟨task,_,_,hit,saved⟩

end Effects

section Keep
variable {state : CurrentState}

theorem required {α : Type} {ans : Answer α} {edited : CurrentState} {action : ParkedAction}
    (safe : Safe state action) (same : perform state action = settled ans)
    (commits : Commits ans edited) : Requires state action := by
  obtain ⟨value,accepted⟩ := commits.1
  exact safe (by rw [same]; simp [settled, accepted, Except.map])

theorem commits_loadable {α : Type} {ans : Answer α} {edited : CurrentState}
    (commits : Commits ans edited) (loadable : Loadable edited) : Loadable ans.2 := by
  rw [commits.2]
  exact ⟨loadable.parked,loadable.operations⟩

theorem setStatus_keeps : KeepsIdentity (TaskRecord.setStatus status updatedAt) := by
  intro task
  unfold TaskRecord.setStatus
  split <;> exact ⟨rfl,rfl⟩

theorem open_task_carries_nothing
    (opened : task.status = .opened) (unarchived : task.archivedAt = none) :
    ¬ Follows task susp := by
  rintro ⟨-,rule⟩
  cases reason : susp.reason with
  | archived => rw [reason, unarchived] at rule; cases rule
  | closedWorktreeRemoved => rw [reason, opened] at rule; cases rule.2.2.1
  | closed => rw [reason, opened] at rule; cases rule.2

section
variable (inv : Loadable state)
include inv

theorem closeTask_loadable (safe : Safe state (.closeTask tid targets closedAt saves))
    (ran : closeTaskWithSuspendedSessions tid targets closedAt saves state = ans) :
    Loadable ans.2 := by
  rcases closeTask_effect ran with
    kept | ⟨task,next,hit,opened,unarchived,available,same,commits⟩
  · exact kept ▸ inv
  have addressed := required safe (congrArg settled ran) commits task hit
  refine commits_loadable commits (loadable_of_change inv hit rfl
    (setStatus_keeps) (owners_of_descriptors same) (List.Subset.refl _) fun susp here => ?_)
  rcases mem_append.mp here with old | new
  · exact (parked_cases hit (inv.parked susp old)).imp_right fun own =>
      absurd own.2 (open_task_carries_nothing opened unarchived)
  · obtain ⟨target,mem,rfl⟩ := mem_map.mp new
    have named : some tid = some (task.setStatus .closed closedAt).id := by
      rw [(setStatus_keeps task).1, task?_id hit]
    exact .inr ⟨addressed target mem (available target mem),.inr named,named,
      by unfold TaskRecord.setStatus; by_cases same : task.status = .closed <;> simp [same]⟩

theorem beginArchive_loadable {ans : Answer Nat} (ran : beginTaskArchive op saves state = ans) :
    Loadable ans.2 := by
  rcases beginArchive_effect ran with kept | ⟨task,hit,project,commits⟩
  · exact kept ▸ inv
  · apply commits_loadable commits
    refine ⟨inv.parked,fun candidate here => ?_⟩
    rcases mem_append.mp here with old | new
    · exact inv.operations candidate old
    · rw [mem_singleton.mp new]
      exact ⟨task,hit,project⟩

theorem commitArchive_loadable {ans : Answer Nat}
    (safe : Safe state (.commitArchive tid opId now saves))
    (ran : commitTaskArchive tid opId now saves state = ans) :
    Loadable ans.2 := by
  rcases commitArchive_effect ran with
    kept | ⟨op,mem,task,next,itsTask,itsId,hit,unarchived,available,same,commits⟩
  · exact kept ▸ inv
  obtain ⟨addressed,undisturbed⟩ := required safe (congrArg settled ran) commits
  have sameProject : task.projectId = op.projectId := by
    obtain ⟨own,lookup,project⟩ := inv.operations op mem
    rw [itsTask, hit] at lookup
    cases lookup
    exact project
  refine commits_loadable commits (loadable_of_change inv hit rfl (fun _ => ⟨rfl,rfl⟩)
    (owners_of_descriptors same) (fun _ => mem_of_mem_eraseP) fun susp here => ?_)
  rcases mem_append.mp here with old | new
  · rcases parked_cases hit (inv.parked susp old) with elsewhere | ⟨project,follows⟩
    · exact .inl elsewhere
    have rule := follows.2
    cases reason : susp.reason with
    | archived => rw [reason, unarchived] at rule; cases rule
    | closedWorktreeRemoved => exact .inl (undisturbed susp old reason)
    | closed =>
      refine .inr ⟨project,follows.1,?_⟩
      rw [reason] at rule ⊢
      exact rule
  · obtain ⟨target,chosen,rfl⟩ := mem_map.mp new
    have project := addressed op mem itsTask itsId target chosen (available target chosen)
    rw [← sameProject] at project
    exact .inr ⟨project,.inr (congrArg some (task?_id hit).symm),rfl⟩

theorem finalize_loadable (safe : Safe state (.finalize tid updatedAt saves))
    (ran : finalizeArchivedTaskAsClosedAfterWorktreeRemoval tid updatedAt saves state =
      ans) : Loadable ans.2 := by
  rcases finalize_effect inv.parked ran with
    kept | ⟨task,now,next,found,archived,removed,owners,commits⟩
  · exact kept ▸ inv
  have requires := required safe (congrArg settled ran) commits task found
  refine commits_loadable commits (loadable_of_change inv found rfl (fun _ => ⟨rfl,rfl⟩) owners
    (List.Subset.refl _) fun susp here => ?_)
  obtain ⟨old,mem,rfl⟩ := mem_map.mp here
  by_cases hit : settles tid now old
  · rw [TaskArchiveSuspension.settle, if_pos hit]
    replace hit := both_eq hit
    have project := (requires old mem).2 hit.1 (by rw [archived, hit.2])
    have named : old.taskId = some task.id := by rw [hit.1, task?_id found]
    exact .inr ⟨project,.inr named,named,rfl,rfl,removed⟩
  rw [TaskArchiveSuspension.settle, if_neg hit]
  rcases parked_cases found (inv.parked old mem) with elsewhere | ⟨project,follows⟩
  · exact .inl elsewhere
  have rule := follows.2
  cases reason : old.reason with
  | archived =>
    rw [reason, archived] at rule
    rcases follows.1 with unnamed | named
    · exact .inl ((requires old mem).1 unnamed reason)
    -- a named suspension of this archive would have been settled
    have timed : old.archivedAt = now := (Option.some.inj rule).symm
    rw [task?_id found] at named
    exact absurd (by simp [settles, named, timed]) hit
  | closedWorktreeRemoved =>
    rw [reason, archived] at rule
    cases rule.2.1
  | closed =>
    refine .inr ⟨project,follows.1,?_⟩
    rw [reason] at rule ⊢
    exact ⟨rule.1,rfl⟩

theorem commitProvisioning_loadable (safe : Safe state (.commitProvisioning tid opId commit saves))
    (ran : commitTaskWorktreeProvisioning tid opId commit saves state = ans) :
    Loadable ans.2 := by
  rcases commitProvisioning_effect ran with kept | ⟨task,proofs,operations,hit,commits⟩
  · exact kept ▸ inv
  have undisturbed := required safe (congrArg settled ran) commits
  refine commits_loadable commits (loadable_of_change inv hit rfl (fun _ => ⟨rfl,rfl⟩) rfl
    (List.Subset.refl _) fun susp mem => ?_)
  by_cases removed : susp.reason = .closedWorktreeRemoved
  · exact .inl (undisturbed susp mem removed)
  refine (parked_cases hit (inv.parked susp mem)).imp_right fun ⟨project,follows⟩ => ?_
  -- the other two reasons do not read the worktree
  have rule := follows.2
  refine ⟨project,follows.1,?_⟩
  cases reason : susp.reason with
  | closedWorktreeRemoved => exact absurd reason removed
  | archived | closed =>
    rw [reason] at rule
    exact rule

theorem reopen_loadable {ans : Answer (TaskRecord × List String)}
    (ran : reopenTaskWithSuspendedSessions tid updatedAt saves state = ans) :
    Loadable ans.2 := by
  rcases reopen_effect inv.parked ran with
    kept | ⟨task,rest,next,hit,unarchived,sub,consumed,owners,commits⟩
  · exact kept ▸ inv
  refine commits_loadable commits (loadable_of_change inv hit rfl (fun _ => ⟨rfl,rfl⟩) owners
    (List.Subset.refl _) fun susp mem => ?_)
  refine (parked_cases hit (inv.parked susp (sub.subset mem))).imp_right fun own => ?_
  -- what the Task itself carried through its close has been consumed
  have rule := own.2.2
  have gone := consumed susp mem
  cases reason : susp.reason with
  | archived => rw [reason, unarchived] at rule; cases rule
  | closedWorktreeRemoved | closed =>
    rw [reason, task?_id hit] at rule
    simp [parkedByClose, rule.1, reason, TaskSuspensionReason.parksClosedTask] at gone

theorem provisionings_loadable {after : CurrentState}
    (only : OnlyProvisionings state after) : Loadable after := by
  obtain ⟨operations,revision,rfl⟩ := only
  exact ⟨inv.parked,inv.operations⟩

end

theorem step_loadable (state : CurrentState) (action : ParkedAction) (after : CurrentState)
    (inv : Loadable state) (safe : Safe state action) (step : Step state action after) :
    Loadable after := by
  subst step
  cases action with
  | closeTask => exact closeTask_loadable inv safe rfl
  | beginArchive => exact beginArchive_loadable inv rfl
  | commitArchive => exact commitArchive_loadable inv safe rfl
  | finalize => exact finalize_loadable inv safe rfl
  | beginProvisioning op saves =>
    refine provisionings_loadable inv ?_
    dsimp only [perform, settled, beginTaskWorktreeProvisioning]
    repeat' split
    all_goals cases saves <;> exact ⟨_,_,rfl⟩
  | advanceProvisioning tid opId stage createdBranchRef updatedAt saves =>
    refine provisionings_loadable inv ?_
    dsimp only [perform, settled, advanceTaskWorktreeProvisioning]
    repeat' split
    all_goals cases saves <;> exact ⟨_,_,rfl⟩
  | commitProvisioning => exact commitProvisioning_loadable inv safe rfl
  | reopen => exact reopen_loadable inv rfl

/-- As long as no accepted archive, settlement or provisioning takes the ground from a
    parked Session, suspensions follow their rules in every run. -/
theorem parked_sessions_stay_loadable {after : CurrentState} {actions : List ParkedAction}
    (accepted : Accepted state) (run : Run (Guarded Safe Step) state actions after) :
    ∀ suspension ∈ after.taskArchiveSuspensions, Parked after suspension :=
  (guarded_run_invariant Loadable (step_loadable _ _ _) run (loadable_of_accepted accepted)).parked

end Keep

def idleTask (status : TaskStatus) : TaskRecord :=
  { id := "task", projectId := "project", status := status, worktreeGeneration := 1, updatedAt := 5 }

def idleAgent : SessionRecord :=
  { id := "agent", projectId := "project", kind := .agent
    process := { cwd := "/project", agentId := some "claude" }
    lifecycleState := "exited", runtimeEpoch := 1 }

def idleState (status : TaskStatus) (parked : List TaskArchiveSuspension) : CurrentState :=
  { CurrentState.empty with
    projects := [{ id := "project", folderPath := "/project" }], tasks := [idleTask status]
    sessions := [idleAgent]
    agentConversationReadiness := [{ sessionId := "agent", readiness := .resumable }]
    taskArchiveSuspensions := parked }

def agentTarget : TaskArchiveTarget :=
  { sessionId := "agent", runtimeEpoch := 1, priorLifecycleState := "running"
    priorResumeFailure := none, wasLiveAgent := true }

def emptyArchive : TaskArchiveOperation :=
  { operationId := "archive", taskId := "task", projectId := "project", worktreePath := none
    worktreeGeneration := 1, targets := [], state := .prepared }

/-- Closing the Task and archiving it then keeps its Agent parked by the close. -/
theorem close_then_archive_stays_loadable : ∃ after, Run (Guarded Safe Step) (idleState .opened [])
        [.closeTask "task" [agentTarget] 6 true, .beginArchive emptyArchive true,
          .commitArchive "task" "archive" 7 true] after ∧
      after.taskArchiveSuspensions = [suspensionOf "task" 6 .closed agentTarget] ∧
      ∀ suspension ∈ after.taskArchiveSuspensions, Parked after suspension := by
  have accepted : Accepted (idleState .opened []) := rfl
  have closes : Safe (idleState .opened []) (.closeTask "task" [agentTarget] 6 true) := by
    intro _ task found target listed _
    cases found
    rw [mem_singleton.mp listed]
    rfl
  have archives : Safe
      (perform (perform (idleState .opened []) (.closeTask "task" [agentTarget] 6 true)).2
        (.beginArchive emptyArchive true)).2 (.commitArchive "task" "archive" 7 true) := by
    intro _
    constructor
    · intro operation listed _ _ target chosen
      rw [mem_singleton.mp listed] at chosen
      cases chosen
    · intro suspension listed removed
      rw [mem_singleton.mp listed] at removed
      cases removed
  exact exists_reached ⟨_,Run.cons ⟨closes,rfl⟩
    (Run.cons ⟨fun _ => trivial,rfl⟩ (run_single ⟨archives,rfl⟩)),rfl⟩
    fun _ run _ => parked_sessions_stay_loadable accepted run

def parkedByRemoval : TaskArchiveSuspension :=
  suspensionOf "task" 5 .closedWorktreeRemoved agentTarget

/-- Archiving a closed Task while an Agent is parked by its checkout's removal is accepted,
    and the next start refuses the file. -/
theorem archive_after_removal_breaks_rule : Accepted (idleState .closed [parkedByRemoval]) ∧
      ∃ after, Run Step (idleState .closed [parkedByRemoval])
          [.beginArchive emptyArchive true, .commitArchive "task" "archive" 7 true] after ∧
        parkedByRemoval ∈ after.taskArchiveSuspensions ∧ ¬ Parked after parkedByRemoval ∧
        validateCurrentState after = .error .corruptRecord := by
  refine ⟨rfl,_,Run.cons rfl (run_single rfl),mem_singleton.mpr rfl,?_,rfl⟩
  rintro ⟨task,present,-,-,-,unarchived,-⟩
  rw [mem_singleton.mp present] at unarchived
  cases unarchived

end TermloopParked
