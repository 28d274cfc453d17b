import Termloop.Store.ArchiveLoops

/-!
Restoring an archived Task. Core picks the Sessions to bring back by comparing
observed directory keys, the store takes exactly those suspensions out and
un-archives the Task, and the next start validates what is left. The result says
for which observations the three agree.
-/
namespace TermloopRestore
open TermloopRecordLists TermloopOutcome TermloopStore List
variable {susp : TaskArchiveSuspension} {ids : List String} {now : Nat}
  {next : List SessionRecord}

structure PathComparisonKey where
  root : List UInt8
  segments : List (List UInt8)

def PathComparisonKey.containsOrEquals (self candidate : PathComparisonKey) : Bool :=
  self.root == candidate.root && self.segments.isPrefixOf candidate.segments

inductive CoreError where
  | notFound
  | cleanupInProgress (taskId operationId : String)
  | staleDisposalInProgress (taskId operationId : String)
  | store (error : StoreError)

structure RestoreReply where
  task : TaskRecord
  resumeSessionIds : List String
  restoredSessionCount : Nat

def ensureTaskWorktreeNotBeingRemoved (state : CurrentState) (taskId : String) :
    Except CoreError Unit :=
  match state.cleanupOperations.find? fun operation =>
      operation.taskId == taskId && operation.failure.isNone with
  | some operation => .error (.cleanupInProgress taskId operation.operationId)
  | none =>
    match state.staleResolutionOperations.find? fun operation =>
        operation.taskId == taskId && operation.failure.isNone with
    | some operation => .error (.staleDisposalInProgress taskId operation.operationId)
    | none => .ok ()

section Restore
-- `comparison_key` of a path: an observation of the directory, absent when it fails
variable (comparisonKey : String → Option PathComparisonKey)

def insideWorktree (task : TaskRecord) (session : SessionRecord) : Bool :=
  task.worktree.any fun worktree =>
    match comparisonKey worktree.path, comparisonKey session.process.cwd with
    | some root, some cwd => root.containsOrEquals cwd
    | _, _ => false

/-- The Session that the filter of `restore_task` finds for a suspension. -/
def sessionInside (state : CurrentState) (task : TaskRecord)
    (suspension : TaskArchiveSuspension) : Option SessionRecord :=
  state.sessions.find? fun session =>
    session.id == suspension.sessionId && session.projectId == task.projectId
      && insideWorktree comparisonKey task session

def cohortSessionIds (state : CurrentState) (taskId : String) (task : TaskRecord)
    (archivedAt : Nat) : List String :=
  ((state.taskArchiveSuspensions.filter (·.archivedAt == archivedAt)).filter fun suspension =>
        suspension.taskId.all fun id => id == taskId).filterMap fun suspension =>
          (sessionInside comparisonKey state task suspension).map (·.id)

def restoreTask (taskId : String) (now : Nat) (persisted : Bool) (state : CurrentState) :
    Outcome CoreError CurrentState RestoreReply :=
  match state.task? taskId with
  | none => (.error .notFound, state)
  | some task =>
    match task.archivedAt with
    | none => (.ok { task := task, resumeSessionIds := [], restoredSessionCount := 0 }, state)
    | some archivedAt =>
      match ensureTaskWorktreeNotBeingRemoved state taskId with
      | .error error => (.error error, state)
      | .ok () =>
        let sessionIds := cohortSessionIds comparisonKey state taskId task archivedAt
        match restoreTaskArchive taskId sessionIds now persisted state with
        | (.error error, changed) => (.error (.store error), changed)
        | (.ok resumeSessionIds, changed) =>
          match changed.task? taskId with
          | none => (.error .notFound, changed)
          | some task =>
            (.ok { task := task, resumeSessionIds := resumeSessionIds,
                   restoredSessionCount := sessionIds.length }, changed)

def selected (state : CurrentState) (taskId : String) (task : TaskRecord) (archivedAt : Nat)
    (suspension : TaskArchiveSuspension) : Bool :=
  suspension.archivedAt == archivedAt && suspension.taskId.all (fun id => id == taskId)
    && (sessionInside comparisonKey state task suspension).isSome

def releasedIds (state : CurrentState) (taskId : String) (task : TaskRecord)
    (archivedAt : Nat) : List String :=
  (state.taskArchiveSuspensions.filter (selected comparisonKey state taskId task archivedAt)).map
    (·.sessionId)

variable {comparisonKey} {st : CurrentState} {tid : String} {task : TaskRecord}
  {since : Nat}

theorem sessionInside_id (found : sessionInside comparisonKey st task susp = some sess) :
    sess ∈ st.sessions ∧ sess.id = susp.sessionId := by
  have hit := find?_some found
  simp only [Bool.and_eq_true, beq_iff_eq] at hit
  exact ⟨mem_of_find?_eq_some found,hit.1.1⟩

theorem cohortSessionIds_eq : cohortSessionIds comparisonKey st tid task since =
      releasedIds comparisonKey st tid task since := by
  unfold cohortSessionIds releasedIds
  generalize st.taskArchiveSuspensions = suspensions
  induction suspensions with
  | nil => rfl
  | cons susp rest ih =>
    by_cases timed : susp.archivedAt = since
    · by_cases named : (susp.taskId.all fun id => id == tid)
      · cases hit : sessionInside comparisonKey st task susp with
        | none => simpa [selected, timed, named, hit] using ih
        | some sess =>
          have same := (sessionInside_id hit).2
          simpa [selected, timed, named, hit, same] using ih
      · simpa [selected, timed, named] using ih
    · simpa [selected, timed] using ih

theorem suspensions_distinct (accepted : Accepted st) :
    (st.taskArchiveSuspensions.map (·.sessionId)).Nodup := by
  have archive := ((accepted_iff st).mp accepted).2.2.1
  simp only [archiveRecordsAreInvalid, Bool.or_eq_false_iff] at archive
  have nodup := ((invalidSuspension_eq_false st).mp archive.2).2
  exact pairwise_map.mpr (nodup.imp fun apart same => apart same.symm)

theorem mem_releasedIds (accepted : Accepted st) (present : susp ∈ st.taskArchiveSuspensions) :
    susp.sessionId ∈ releasedIds comparisonKey st tid task since ↔
      selected comparisonKey st tid task since susp := by
  constructor
  · intro released
    obtain ⟨other,chosen,same⟩ := mem_map.mp released
    obtain ⟨here,hit⟩ := mem_filter.mp chosen
    rwa [same_suspension (suspensions_distinct accepted) here present same] at hit
  · intro hit
    exact mem_map.mpr ⟨susp,mem_filter.mpr ⟨present,hit⟩,rfl⟩

def restoredState (state : CurrentState) (taskId : String) (now : Nat) (ids : List String)
    (sessions : List SessionRecord) : CurrentState :=
  { (state.without ids sessions).updateTask taskId (TaskRecord.unarchive now) with
    revision := state.revision + 1 }

theorem restoreTaskArchive_ok {after : CurrentState} (hit : st.task? tid = some task)
    (archived : task.archivedAt = some since)
    (finished : forEach (restoreSession tid) ids (st, []) = (.ok (), (st.without ids next,
      resumable))) (committed : restoreTaskArchive tid ids now persisted st = (.ok ans, after)) :
    after = restoredState st tid now ids next := by
  simp only [restoreTaskArchive, hit, archived, finished] at committed
  split at committed
  · cases committed
  cases persisted with
  | false => cases committed
  | true =>
    cases committed
    rfl

theorem restoreTask_effect {after : CurrentState}
    (accepted : Accepted st) (found : st.task? tid = some task)
    (archived : task.archivedAt = some since)
    (restored : restoreTask comparisonKey tid now persisted st = (.ok reply, after)) :
    ∃ next, Restored st (releasedIds comparisonKey st tid task since) next ∧
      after = restoredState st tid now (releasedIds comparisonKey st tid task since) next := by
  simp only [restoreTask, found, archived, cohortSessionIds_eq] at restored
  generalize chosen : releasedIds comparisonKey st tid task since = ids at restored ⊢
  have loop : ∃ next resumable,
      forEach (restoreSession tid) ids (st, []) = (.ok (), (st.without ids next, resumable)) ∧
        Restored st ids next := by
    subst chosen
    apply restoreSessions_spec (suspensions_distinct accepted)
    · exact (filter_sublist.map _).nodup (suspensions_distinct accepted)
    · intro id released
      obtain ⟨susp,chosen,same⟩ := mem_map.mp released
      obtain ⟨here,hit⟩ := mem_filter.mp chosen
      simp only [selected, Bool.and_eq_true] at hit
      obtain ⟨sess,inside⟩ := Option.isSome_iff_exists.mp hit.2
      obtain ⟨lives,own⟩ := sessionInside_id inside
      refine ⟨susp,here,same,hit.1.2,?_⟩
      rw [CurrentState.session?, find?_isSome]
      exact ⟨sess,lives,by simp [own, same]⟩
  obtain ⟨next,resumable,finished,shape⟩ := loop
  refine ⟨next,shape,?_⟩
  iterate 2 (split at restored; · cases restored)
  rename_i ans edited committed
  have saved := restoreTaskArchive_ok found archived finished committed
  split at restored
  · cases restored
  cases restored
  exact saved

/-- The suspension names the Task, or names none and only this Task can account for it. -/
def InCohort (state : CurrentState) (task : TaskRecord) (archivedAt : Nat)
    (suspension : TaskArchiveSuspension) : Prop :=
  suspension.reason = .archived ∧
    (suspension.taskId = some task.id ∨
      (suspension.taskId = none ∧ suspension.archivedAt = archivedAt ∧
        state.projectOf suspension.sessionId = some task.projectId))

theorem parked_after (shape : Restored st ids next) (hit : st.task? tid = some task)
    (archived : task.archivedAt = some since)
    (outside : ¬ InCohort st task since susp) (parked : Parked st susp) :
    Parked (restoredState st tid now ids next) susp := by
  obtain ⟨witness,here,project,follows⟩ := parked
  have project' : (restoredState st tid now ids next).projectOf susp.sessionId =
      some witness.projectId := by
    rw [← project]
    exact projectOf_congr shape.descriptors susp.sessionId
  have survives : witness ∈ (restoredState st tid now ids next).tasks ∨
      st.task? tid = some witness := mem_updateFirst_of_mem here
  rcases survives with kept | own
  · exact ⟨witness,kept,project',follows⟩
  rw [hit] at own
  cases own
  have edited : task.unarchive now ∈
      (restoredState st tid now ids next).tasks := changed_mem_updateFirst hit
  refine ⟨_,edited,project',follows.1,?_⟩
  have rule := follows.2
  cases reason : susp.reason with
  | archived =>
    rw [reason] at rule
    rw [archived] at rule
    have timed : susp.archivedAt = since := (Option.some.inj rule).symm
    rcases follows.1 with unnamed | named
    · exact absurd ⟨reason,.inr ⟨unnamed,timed,project⟩⟩ outside
    · exact absurd ⟨reason,.inl named⟩ outside
  | closedWorktreeRemoved =>
    rw [reason] at rule
    exact ⟨rule.1,rfl,rule.2.2⟩
  | closed =>
    rw [reason] at rule
    exact rule

theorem suspensions_after (accepted : Accepted st) (shape : Restored st ids next)
    (hit : st.task? tid = some task) (archived : task.archivedAt = some since)
    (emptied : ∀ susp ∈ (restoredState st tid now ids next).taskArchiveSuspensions,
      ¬ InCohort st task since susp) :
    invalidSuspension (restoredState st tid now ids next) = false := by
  have archive := ((accepted_iff st).mp accepted).2.2.1
  simp only [archiveRecordsAreInvalid, Bool.or_eq_false_iff] at archive
  obtain ⟨parked,nodup⟩ := (invalidSuspension_eq_false st).mp archive.2
  rw [invalidSuspension_eq_false]
  constructor
  · intro susp remains
    have here : susp ∈ st.taskArchiveSuspensions := (mem_filter.mp remains).1
    exact parked_after shape hit archived (emptied susp remains) (parked susp here)
  · exact nodup.filter _

section After

theorem sessionOperations_after (shape : Restored st ids next) :
    invalidSessionArchiveOperation (restoredState st tid now ids next) =
      invalidSessionArchiveOperation st := by
  refine congrArg₂ anyWithLater (funext fun op => funext fun later => ?_) rfl
  rw [session?_all_congr shape.descriptors]
  exact fun _ => rfl

theorem task?_after (id : String) : (restoredState st tid now ids next).task? id =
      if id = tid then (st.task? id).map (TaskRecord.unarchive now) else st.task? id :=
  have keeps : ∀ task : TaskRecord, (task.unarchive now).id = task.id := fun _ => rfl
  task?_updateTask (st.without ids next) keeps tid id

theorem taskOperation_after (shape : Restored st ids next) (hit : st.task? tid = some task)
    (archived : task.archivedAt = some since) (lawful : TaskOperationLawful st op) :
    TaskOperationLawful (restoredState st tid now ids next) op := by
  obtain ⟨own,mine⟩ := lawful.task
  have other : op.taskId ≠ tid := by
    intro same
    have twice := mine.found
    rw [same, hit] at twice
    cases twice
    rw [mine.unarchived] at archived
    cases archived
  have lookup : (restoredState st tid now ids next).task? op.taskId = some own := by
    rw [task?_after, if_neg other, mine.found]
  refine ⟨⟨own,lookup,mine.unarchived,mine.project,mine.path,mine.generation⟩,
    lawful.named,?_,lawful.distinct⟩
  intro target mem
  have ready := lawful.targets target mem
  obtain ⟨sess,here,sameId,sameProject,sameEpoch⟩ := ready.session
  obtain ⟨kept,stays,equal⟩ := mem_of_same_descriptors shape.descriptors here
  constructor
  · intro susp remains
    exact ready.unparked susp (mem_filter.mp remains).1
  · have id := congrArg SessionRecord.id equal
    have project := congrArg SessionRecord.projectId equal
    have epoch := congrArg SessionRecord.runtimeEpoch equal
    exact ⟨kept,stays,id.trans sameId,project.trans sameProject,epoch.trans sameEpoch⟩

theorem receipts_after (shape : Restored st ids next) :
    invalidRelocationReceipt (restoredState st tid now ids next) = invalidRelocationReceipt st := by
  refine congrArg₂ anyWithLater (funext fun receipt => funext fun later => ?_) rfl
  rw [session?_all_congr shape.descriptors]
  · rfl
  · exact fun _ => rfl

theorem relocation_after (accepted : Accepted st) (found : st.task? tid = some task)
    (archived : task.archivedAt = some since)
    (shape : Restored st (releasedIds comparisonKey st tid task since) next)
    (valid : relocationOperationIsInvalid st op = false) :
    relocationOperationIsInvalid (restoredState st tid now
        (releasedIds comparisonKey st tid task since) next) op = false ↔
      ∀ susp ∈ st.taskArchiveSuspensions, selected comparisonKey st tid task since susp →
        op.sessionId = susp.sessionId →
        susp.priorLifecycleState = "resuming" := by
  have pending := relocationPending_of_valid valid
  obtain ⟨sess,lives,-,-⟩ := pending.session
  obtain ⟨own,standing,unarchived⟩ := pending.task
  have other : op.targetTaskId ≠ tid := by
    intro same
    rw [same, found] at standing
    cases standing
    rw [unarchived] at archived
    cases archived
  have reads : relocationOperationIsInvalid (restoredState st tid now
      (releasedIds comparisonKey st tid task since) next) op =
      relocationCheckFails st op
        ((st.without (releasedIds comparisonKey st tid task since) next).session?
          op.sessionId) (st.task? op.targetTaskId) := by
    rw [relocationOperationIsInvalid, task?_after, if_neg other]
    rfl
  have pre : relocationCheckFails st op (some sess) (st.task? op.targetTaskId) = false := by
    rw [← lives]
    exact valid
  rw [reads]
  by_cases released : op.sessionId ∈ releasedIds comparisonKey st tid task since
  · obtain ⟨susp,chosen,same⟩ := mem_map.mp released
    obtain ⟨present,hit⟩ := mem_filter.mp chosen
    have back := shape.released susp present (same ▸ released)
    rw [same, lives, Option.map_some] at back
    rw [back, relocation_reads_lifecycle pre (release_descriptor susp sess), release_resuming]
    constructor
    · intro resuming candidate here _ itsOwn
      have unique := same_suspension (suspensions_distinct accepted) here present
        (itsOwn.symm.trans same.symm)
      rw [unique]
      exact resuming
    · intro each
      exact each susp present hit same.symm
  · rw [shape.others _ released, lives]
    constructor
    · intro _ susp present hit itsOwn
      rw [itsOwn] at released
      exact absurd ((mem_releasedIds accepted present).mpr hit) released
    · intro _
      exact pre

end After

theorem mem_suspensions_after (accepted : Accepted st) : susp ∈ (restoredState st tid now
        (releasedIds comparisonKey st tid task since) next).taskArchiveSuspensions ↔
      susp ∈ st.taskArchiveSuspensions ∧
        ¬ selected comparisonKey st tid task since susp := by
  refine mem_filter.trans ?_
  constructor
  · rintro ⟨here,kept⟩
    refine ⟨here,fun hit => ?_⟩
    have released := (mem_releasedIds accepted here).mpr hit
    simp [released] at kept
  · rintro ⟨here,missed⟩
    refine ⟨here,?_⟩
    have kept := mt (mem_releasedIds accepted here).mp missed
    simpa using kept

/-- The filter selects every suspension of the archive, and no selected Session is being
    relocated unless it was parked as resuming. -/
structure RestoreCovers (comparisonKey : String → Option PathComparisonKey)
    (state : CurrentState) (taskId : String) (task : TaskRecord) (archivedAt : Nat) : Prop where
  cohort : ∀ suspension ∈ state.taskArchiveSuspensions, InCohort state task archivedAt suspension →
    selected comparisonKey state taskId task archivedAt suspension = true
  relocations : ∀ suspension ∈ state.taskArchiveSuspensions,
    selected comparisonKey state taskId task archivedAt suspension = true →
    ∀ operation ∈ state.sessionRelocationOperations,
      operation.sessionId = suspension.sessionId → suspension.priorLifecycleState = "resuming"

theorem accepted_after (accepted : Accepted st) (hit : st.task? tid = some task)
    (archived : task.archivedAt = some since) (shape : Restored st ids next)
    (emptied : ∀ susp ∈ (restoredState st tid now ids next).taskArchiveSuspensions,
      ¬ InCohort st task since susp) :
    Accepted (restoredState st tid now ids next) ↔
      invalidRelocationOperation (restoredState st tid now ids next) = false := by
  obtain ⟨sessions,readiness,archive,relocation,worktrees⟩ := (accepted_iff st).mp accepted
  simp only [archiveRecordsAreInvalid, relocationRecordsAreInvalid, Bool.or_eq_false_iff]
    at archive relocation
  have taskOperations :
      invalidTaskArchiveOperation (restoredState st tid now ids next) = false := by
    obtain ⟨lawful,nodup⟩ := (invalidTaskArchiveOperation_eq_false st).mp archive.1.2
    rw [invalidTaskArchiveOperation_eq_false]
    exact ⟨fun op here => taskOperation_after shape hit archived (lawful op here),nodup⟩
  have bindings : (updateFirst (·.id == tid) (TaskRecord.unarchive now)
      st.tasks).map TaskRecord.binding = st.tasks.map TaskRecord.binding :=
    have keeps : ∀ task : TaskRecord, (task.unarchive now).binding = task.binding := fun _ => rfl
    map_updateFirst keeps st.tasks
  rw [accepted_iff]
  constructor
  · rintro ⟨-,-,-,relocation',-⟩
    simp only [relocationRecordsAreInvalid, Bool.or_eq_false_iff] at relocation'
    exact relocation'.1
  · intro operations
    refine ⟨?_,?_,?_,?_,?_⟩
    · rw [← sessions, ← sessionsAreInvalid_descriptors]
      exact shape.descriptors ▸ sessionsAreInvalid_descriptors
    · rw [← readiness]
      exact agentConversationReadinessIsInvalid_congr shape.descriptors rfl
    · simp only [archiveRecordsAreInvalid, sessionOperations_after shape, archive.1.1,
        taskOperations, suspensions_after accepted shape hit archived emptied, Bool.or_self]
    · simp only [relocationRecordsAreInvalid, operations, receipts_after shape, relocation.2,
        Bool.or_self]
    · rw [← worktrees]
      exact worktreeRecordsAreInvalid_congr bindings

end Restore

section Cohort
variable {comparisonKey : String → Option PathComparisonKey} {st after : CurrentState}
  {tid : String} {task : TaskRecord} {since : Nat} {persisted : Bool} {reply : RestoreReply}

/-- An answered restore leaves no suspension of the archive and a loadable state exactly
    when its filter covers the cohort. -/
theorem restore_task_empties_cohort_iff (accepted : Accepted state)
    (found : state.task? taskId = some task) (archived : task.archivedAt = some archivedAt)
    (restored : restoreTask comparisonKey taskId now persisted state = (.ok reply, after)) :
    ((∀ suspension ∈ after.taskArchiveSuspensions, ¬ InCohort state task archivedAt suspension) ∧
        archiveRecordsAreInvalid after = false ∧ Accepted after) ↔
      RestoreCovers comparisonKey state taskId task archivedAt := by
  obtain ⟨next,shape,written⟩ := restoreTask_effect accepted found archived restored
  subst written
  have pending := ((accepted_iff state).mp accepted).2.2.2.1
  simp only [relocationRecordsAreInvalid, Bool.or_eq_false_iff] at pending
  obtain ⟨valid,apart⟩ := (invalidRelocationOperation_eq_false state).mp pending.1
  constructor
  · rintro ⟨emptied,-,reopened⟩
    constructor
    · intro suspension present member
      by_contra missed
      exact emptied suspension ((mem_suspensions_after accepted).mpr ⟨present,missed⟩) member
    · intro suspension present hit operation listed
      have operations := (accepted_after accepted found archived shape emptied).mp reopened
      have each := ((invalidRelocationOperation_eq_false _).mp operations).1 operation listed
      exact (relocation_after accepted found archived shape (valid operation listed)).mp each
        suspension present hit
  · intro covers
    have emptied : ∀ suspension ∈ (restoredState state taskId now
        (releasedIds comparisonKey state taskId task archivedAt) next).taskArchiveSuspensions,
          ¬ InCohort state task archivedAt suspension := by
      intro suspension remains member
      obtain ⟨present,missed⟩ := (mem_suspensions_after accepted).mp remains
      exact missed (covers.cohort suspension present member)
    have operations : invalidRelocationOperation (restoredState state taskId now
        (releasedIds comparisonKey state taskId task archivedAt) next) = false := by
      rw [invalidRelocationOperation_eq_false]
      refine ⟨fun operation listed => ?_,apart⟩
      apply (relocation_after accepted found archived shape (valid operation listed)).mpr
      intro suspension present hit itsOwn
      exact covers.relocations suspension present hit operation listed itsOwn
    have reopened := (accepted_after accepted found archived shape emptied).mpr operations
    exact ⟨emptied,((accepted_iff _).mp reopened).2.2.1,reopened⟩

end Cohort

def parkedTask : TaskRecord :=
  { id := "task", projectId := "project", status := .opened, archivedAt := some 5
    branch := some { repositoryRoot := "/repo", name := "topic" }
    worktree := some { path := "/worktree" }, worktreeGeneration := 1, updatedAt := 5 }

def parkedAgent : SessionRecord :=
  { id := "agent", projectId := "project", kind := .agent
    process := { cwd := "/worktree", agentId := some "claude" }
    lifecycleState := "exited", runtimeEpoch := 1 }

def parkedState : CurrentState :=
  { CurrentState.empty with
    projects := [{ id := "project", folderPath := "/project" }], tasks := [parkedTask]
    sessions := [parkedAgent]
    agentConversationReadiness := [{ sessionId := "agent", readiness := .resumable }]
    taskArchiveSuspensions :=
      [{ taskId := some "task", sessionId := "agent", archivedAt := 5
         priorLifecycleState := "running", reason := .archived }] }

def presentFolder (path : String) : Option PathComparisonKey :=
  if path = "/worktree" then some { root := [47], segments := [[119]] } else none

theorem restore_task_present_folder :
    ∃ reply after, restoreTask presentFolder "task" 9 true parkedState = (.ok reply, after) ∧
      (∀ suspension ∈ after.taskArchiveSuspensions, ¬ InCohort parkedState parkedTask 5 suspension)
        ∧ archiveRecordsAreInvalid after = false ∧ Accepted after := by
  have answers : ∃ reply after,
      restoreTask presentFolder "task" 9 true parkedState = (.ok reply, after) := ⟨_,_,rfl⟩
  obtain ⟨reply,after,restored⟩ := answers
  have accepted : Accepted parkedState := rfl
  have found : parkedState.task? "task" = some parkedTask := rfl
  refine ⟨reply,after,restored,?_⟩
  apply (restore_task_empties_cohort_iff accepted found rfl restored).mpr
  constructor
  · intro suspension present _
    rw [mem_singleton.mp present]
    rfl
  · intro suspension _ _ operation listed
    cases listed

/-- Without the worktree's folder nothing is selected: the Task is un-archived, its Agent
    stays parked, and the next start refuses the file. -/
theorem missing_folder_strands_cohort : Accepted parkedState ∧
      ∃ reply after, restoreTask (fun _ => none) "task" 9 true parkedState = (.ok reply, after) ∧
        (∃ suspension ∈ after.taskArchiveSuspensions,
          InCohort parkedState parkedTask 5 suspension) ∧
        archiveRecordsAreInvalid after = true ∧ validateCurrentState after =
          .error .corruptRecord :=
  ⟨rfl,_,_,rfl,⟨_,mem_singleton.mpr rfl,rfl,.inl rfl⟩,rfl,rfl⟩

end TermloopRestore
