import Termloop.Store.Relocation

/-!
Operations of the store that edit the live state in place and commit at the end. Only
the commit goes back to the state it was called in; an operation that stops between its
first edit and its commit leaves the edits in memory, unwritten. Each operation is
therefore compared with what its caller may rely on: an error changed nothing, and an
accepted answer stands for no change or for one new revision.
-/
namespace TermloopAtomic
open TermloopRecordLists TermloopOutcome TermloopStore TermloopReceipts TermloopRelocation List

inductive Mutator where
  | restoreArchive (taskId : String) (sessionIds : List String) (updatedAt : Nat)
  | finalizeArchived (taskId : String) (updatedAt : Nat)
  | reopen (taskId : String) (updatedAt : Nat)
  | commitRelocation (sessionId operationId : String) (runtimeEpoch : Nat) (resumeRef : ResumeRef)
  | failRelocation (sessionId operationId : String) (failure : ResumeFailureReason)

def call (persisted : Bool) (state : CurrentState) : Mutator → Answer Unit
  | .restoreArchive taskId sessionIds updatedAt =>
    settled (restoreTaskArchive taskId sessionIds updatedAt persisted state)
  | .finalizeArchived taskId updatedAt =>
    settled (finalizeArchivedTaskAsClosedAfterWorktreeRemoval taskId updatedAt persisted state)
  | .reopen taskId updatedAt =>
    settled (reopenTaskWithSuspendedSessions taskId updatedAt persisted state)
  | .commitRelocation sessionId operationId runtimeEpoch resumeRef =>
    settled (commitSessionRelocation sessionId operationId runtimeEpoch resumeRef persisted state)
  | .failRelocation sessionId operationId failure =>
    settled (failSessionRelocation sessionId operationId failure persisted state)

/-- An error changed nothing; an answer changed nothing or wrote one new revision. -/
def AllOrNothing {α : Type} (before : CurrentState) (answer : Answer α) : Prop :=
  match answer.1 with
  | .error _ => answer.2 = before
  | .ok _ => answer.2 = before ∨ answer.2.revision = before.revision + 1

/-- The Session is parked with the archive that `restore_task_archive` is about to undo. -/
def ParkedWith (state : CurrentState) (taskId : String) (archivedAt : Nat) (sessionId : String) :
    Prop :=
  ∃ suspension ∈ state.taskArchiveSuspensions, suspension.sessionId = sessionId
    ∧ suspension.archivedAt = archivedAt
    ∧ (suspension.taskId.all fun id => id == taskId) = true

/-- The call passes the entry checks of a restore and names a parked Session more than once.
    -/
def RestoresTwice (state : CurrentState) : Mutator → Prop
  | .restoreArchive taskId sessionIds _ =>
    ∃ task archivedAt, state.task? taskId = some task ∧ task.archivedAt = some archivedAt
      ∧ (∀ sessionId ∈ sessionIds, ParkedWith state taskId archivedAt sessionId)
      ∧ ¬ sessionIds.Nodup
  | _ => False

section Answers
variable {α : Type} {st edited : CurrentState}

theorem refused_allOrNothing : AllOrNothing st ((.error error, st) : Answer α) := rfl

theorem commit_allOrNothing (same : edited.revision = st.revision) :
    AllOrNothing st (commitOrRestore saves st edited value) := by
  cases saves with
  | false => exact refused_allOrNothing
  | true => exact .inr (congrArg (· + 1) same)

theorem settled_allOrNothing : AllOrNothing st (settled ans) ↔ AllOrNothing st ans := by
  obtain ⟨result,after⟩ := ans
  cases result <;> rfl

end Answers

theorem suspensions_of_accepted (accepted : Accepted st) :
    (∀ susp ∈ st.taskArchiveSuspensions, (st.session? susp.sessionId).isSome) ∧
      (st.taskArchiveSuspensions.map (·.sessionId)).Nodup := by
  have archive := ((accepted_iff st).mp accepted).2.2.1
  simp only [archiveRecordsAreInvalid, Bool.or_eq_false_iff] at archive
  obtain ⟨parked,nodup⟩ := (invalidSuspension_eq_false st).mp archive.2
  constructor
  · intro susp here
    obtain ⟨task,-,owned,-⟩ := parked susp here
    obtain ⟨sess,hit,-⟩ := Option.map_eq_some_iff.mp owned
    rw [hit]
    rfl
  · rw [List.Nodup, pairwise_map]
    exact nodup.imp (·.symm)

theorem session_listed {st : CurrentState} (lives : (st.session? sid).isSome) :
    (st.sessions.any (·.id == sid)) := by
  rwa [CurrentState.session?, find?_isSome, ← any_eq_true] at lives

section Operations
variable {st : CurrentState} {saves : Bool} {tid sid opId : String}
  {updatedAt : Nat}

theorem finalize_allOrNothing (accepted : Accepted st) :
    AllOrNothing st (finalizeArchivedTaskAsClosedAfterWorktreeRemoval tid updatedAt saves st) := by
  unfold finalizeArchivedTaskAsClosedAfterWorktreeRemoval
  iterate 2 (split; · exact refused_allOrNothing)
  · exact refused_allOrNothing
  · rename_i now project _ _
    split
    · exact refused_allOrNothing
    have present : ∀ susp ∈ st.taskArchiveSuspensions, settles tid now susp →
        (st.sessions.any (·.id == susp.sessionId)) :=
      fun susp here _ =>
        session_listed ((suspensions_of_accepted accepted).1 susp here)
    obtain ⟨next,finished,-⟩ :=
      @settleSuspensions_spec tid project.folderPath now _ _ present
    rw [finished]
    exact commit_allOrNothing rfl

theorem reopen_allOrNothing (accepted : Accepted st) :
    AllOrNothing st (reopenTaskWithSuspendedSessions tid updatedAt saves st) := by
  unfold reopenTaskWithSuspendedSessions
  split
  · exact refused_allOrNothing
  rename_i task _
  split
  · exact refused_allOrNothing
  obtain ⟨rest,next,resumable,finished,-⟩ :=
    reopenSessions_spec tid (relocatedCwd st task) (recreatedWorktree task) fun susp here =>
        session_listed ((suspensions_of_accepted accepted).1 susp here)
  rw [finished]
  exact commit_allOrNothing rfl

theorem commitRelocation_allOrNothing :
    AllOrNothing st (commitSessionRelocation sid opId epoch resumeRef saves st) := by
  unfold commitSessionRelocation
  repeat' split
  all_goals first
    | exact refused_allOrNothing
    | exact commit_allOrNothing rfl

theorem failRelocation_allOrNothing {failure : ResumeFailureReason} :
    AllOrNothing st (failSessionRelocation sid opId failure saves st) := by
  unfold failSessionRelocation
  repeat' split
  all_goals first
    | exact refused_allOrNothing
    | exact Or.inl rfl
    | exact commit_allOrNothing rfl

end Operations

section RestoreArchive
variable {st : CurrentState} {saves : Bool} {tid : String} {now updatedAt : Nat}
  {sessionIds : List String}

theorem parkedWith_iff : ParkedWith st tid now sid ↔
      (st.taskArchiveSuspensions.any fun susp =>
        susp.sessionId == sid && susp.archivedAt == now
          && susp.taskId.all fun id => id == tid) := by
  simp only [ParkedWith, any_eq_true, Bool.and_eq_true, beq_iff_eq, and_assoc]

theorem restore_eq (hit : st.task? tid = some task) (archived : task.archivedAt = some now)
    (parked : ∀ sid ∈ sessionIds, ParkedWith st tid now sid) :
    restoreTaskArchive tid sessionIds updatedAt saves st =
      match forEach (restoreSession tid) sessionIds (st, []) with
      | (.error error, edited) => (.error error, edited.1)
      | (.ok (), edited) =>
        commitOrRestore saves st
          (edited.1.updateTask tid (TaskRecord.unarchive updatedAt)) edited.2 := by
  have passed : (sessionIds.any fun sid =>
      !st.taskArchiveSuspensions.any fun susp =>
        susp.sessionId == sid && susp.archivedAt == now
          && susp.taskId.all fun id => id == tid) = false := by
    rw [any_eq_false]
    intro sid mem
    rw [parkedWith_iff.mp (parked sid mem)]
    decide
  simp only [restoreTaskArchive, hit, archived, passed]
  rfl

theorem restoreSessions_stops (accepted : Accepted st)
    (parked : ∀ sid ∈ sessionIds, ParkedWith st tid now sid) :
    ∀ rest handled sessions resumable, sessionIds = handled ++ rest → handled.Nodup →
      Restored st handled sessions → ¬ sessionIds.Nodup →
      ∃ done next more, forEach (restoreSession tid) rest (st.without handled sessions, resumable) =
            (.error .constraintViolation, (st.without done next, more)) ∧
        ∃ sid ∈ done, sid ∈ sessionIds := by
  obtain ⟨lives,nodup⟩ := suspensions_of_accepted accepted
  intro rest
  induction rest with
  | nil =>
    intro handled sessions resumable whole once _ repeated
    rw [append_nil] at whole
    exact absurd (whole ▸ once) repeated
  | cons sid rest ih =>
    intro handled sessions resumable whole once pre repeated
    have mem : sid ∈ sessionIds := by
      rw [whole]
      simp
    obtain ⟨susp,present,same,-,named⟩ := parked sid mem
    subst same
    by_cases seen : susp.sessionId ∈ handled
    · have gone : (st.without handled sessions).taskArchiveSuspensions.find?
          (restorable tid susp.sessionId) = none := by
        rw [find?_eq_none]
        intro other here hit
        simp only [restorable, Bool.and_eq_true, beq_iff_eq] at hit
        have kept := (mem_filter.mp here).2
        rw [hit.1] at kept
        simp [seen] at kept
      refine ⟨handled,sessions,resumable,?_,susp.sessionId,seen,mem⟩
      rw [forEach]
      simp only [restoreSession, gone]
    · obtain ⟨sess,found⟩ := Option.isSome_iff_exists.mp (lives susp present)
      obtain ⟨next,more,passed,after⟩ :=
        restoreSession_step nodup pre present named seen found
      rw [forEach, passed]
      apply ih (handled ++ [susp.sessionId]) next more
      · rw [whole, append_assoc, singleton_append]
      · rw [nodup_append]
        refine ⟨once,nodup_singleton _,?_⟩
        rintro old already new here rfl
        exact seen (mem_singleton.mp here ▸ already)
      · exact after
      · exact repeated

theorem without_nothing : st.without [] st.sessions = st := by
  simp [CurrentState.without]

theorem restore_once (accepted : Accepted st) (once : sessionIds.Nodup)
    (hit : st.task? tid = some task) (archived : task.archivedAt = some now)
    (parked : ∀ sid ∈ sessionIds, ParkedWith st tid now sid) :
    AllOrNothing st (restoreTaskArchive tid sessionIds updatedAt saves st) := by
  obtain ⟨lives,nodup⟩ := suspensions_of_accepted accepted
  have each : ∀ id ∈ sessionIds, ∃ susp ∈ st.taskArchiveSuspensions,
      susp.sessionId = id ∧ (susp.taskId.all fun id => id == tid) ∧
        (st.session? id).isSome := by
    intro id mem
    obtain ⟨susp,here,same,-,named⟩ := parked id mem
    exact ⟨susp,here,same,named,same ▸ lives susp here⟩
  obtain ⟨next,resumable,finished,-⟩ := restoreSessions_spec nodup once each
  rw [restore_eq hit archived parked, finished]
  exact commit_allOrNothing rfl

theorem restore_refused (refused : ∀ task now, st.task? tid = some task →
      task.archivedAt = some now →
      ¬ ∀ sid ∈ sessionIds, ParkedWith st tid now sid) :
    AllOrNothing st (restoreTaskArchive tid sessionIds updatedAt saves st) := by
  unfold restoreTaskArchive
  split
  · exact refused_allOrNothing
  rename_i task hit
  split
  · exact refused_allOrNothing
  rename_i now archived
  split
  · exact refused_allOrNothing
  rename_i passed
  refine absurd ?_ (refused task now hit archived)
  intro sid mem
  rw [Bool.not_eq_true, any_eq_false] at passed
  have here := passed sid mem
  rw [Bool.not_eq_true, Bool.not_eq_false'] at here
  exact parkedWith_iff.mpr here

theorem restore_twice (accepted : Accepted st) (repeated : ¬ sessionIds.Nodup)
    (hit : st.task? tid = some task) (archived : task.archivedAt = some now)
    (parked : ∀ sid ∈ sessionIds, ParkedWith st tid now sid) :
    ¬ AllOrNothing st (restoreTaskArchive tid sessionIds updatedAt saves st) := by
  obtain ⟨done,next,more,stopped,sid,handled,mem⟩ :=
    restoreSessions_stops accepted parked sessionIds [] st.sessions [] rfl nodup_nil
      ⟨rfl,fun _ _ handled => (not_mem_nil handled).elim,fun _ _ => rfl⟩ repeated
  rw [without_nothing] at stopped
  rw [restore_eq hit archived parked, stopped]
  intro unchanged
  have same : st.without done next = st := unchanged
  obtain ⟨susp,here,named,-⟩ := parked sid mem
  rw [← same] at here
  have kept := (mem_filter.mp here).2
  rw [named] at kept
  simp [handled] at kept

end RestoreArchive

/-- From an accepted file, a call is all or nothing unless it restores one parked Session
    twice. -/
theorem call_all_or_nothing_iff {state : CurrentState} (accepted : Accepted state)
    (persisted : Bool) (mutator : Mutator) :
    AllOrNothing state (call persisted state mutator) ↔ ¬ RestoresTwice state mutator := by
  cases mutator with
  | restoreArchive taskId sessionIds updatedAt =>
    refine settled_allOrNothing.trans ⟨?_,?_⟩
    · rintro atomic ⟨task,archivedAt,found,archived,parked,repeated⟩
      exact restore_twice accepted repeated found archived parked atomic
    · intro never
      by_cases passes : ∃ task archivedAt, state.task? taskId = some task ∧
          task.archivedAt = some archivedAt ∧
          ∀ sessionId ∈ sessionIds, ParkedWith state taskId archivedAt sessionId
      · obtain ⟨task,archivedAt,found,archived,parked⟩ := passes
        have once : sessionIds.Nodup := by
          by_contra repeated
          exact never ⟨task,archivedAt,found,archived,parked,repeated⟩
        exact restore_once accepted once found archived parked
      · exact restore_refused fun task archivedAt found archived parked =>
          passes ⟨task,archivedAt,found,archived,parked⟩
  | finalizeArchived taskId updatedAt =>
    exact iff_of_true (settled_allOrNothing.mpr (finalize_allOrNothing accepted)) id
  | reopen taskId updatedAt =>
    exact iff_of_true (settled_allOrNothing.mpr (reopen_allOrNothing accepted)) id
  | commitRelocation sessionId operationId runtimeEpoch resumeRef =>
    exact iff_of_true (settled_allOrNothing.mpr commitRelocation_allOrNothing) id
  | failRelocation sessionId operationId failure =>
    exact iff_of_true (settled_allOrNothing.mpr failRelocation_allOrNothing) id

def parkedState : CurrentState :=
  { CurrentState.empty with
    tasks := [{
      id := "task", projectId := "project", status := .opened, archivedAt := some 5
      worktreeGeneration := 0, updatedAt := 5 }]
    sessions := [{
      id := "session", projectId := "project", kind := .terminal, process := { cwd := "/project" }
      lifecycleState := "exited", runtimeEpoch := 1 }]
    taskArchiveSuspensions := [{
      taskId := some "task", sessionId := "session", archivedAt := 5
      priorLifecycleState := "stale", reason := .archived }] }

theorem parkedState_accepted : Accepted parkedState := rfl

theorem restored_once_is_all_or_nothing :
    AllOrNothing parkedState (call true parkedState (.restoreArchive "task" ["session"] 9)) := by
  refine (call_all_or_nothing_iff parkedState_accepted true _).mpr ?_
  rintro ⟨-,-,-,-,-,repeated⟩
  exact repeated (nodup_singleton _)

/-- The second pass over the Session refuses, and the first pass stays in memory. -/
theorem restored_twice_stays_half_done : Accepted parkedState ∧
      (call true parkedState (.restoreArchive "task" ["session", "session"] 9)).1 =
        .error .constraintViolation ∧
      (call true parkedState (.restoreArchive "task" ["session", "session"] 9)).2 ≠
        parkedState := by
  refine ⟨parkedState_accepted,rfl,?_⟩
  decide +kernel

end TermloopAtomic
