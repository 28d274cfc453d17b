import Termloop.Core.RoutineReports
import Termloop.Lib.Runs

/-!
The answers of Tasks on the pipelines of their Projects. Five calls write them: a new
document retires the answers it does not ask for, a check records its answer, and a Task
may be moved by hand. The revision, the disk and the checks on what is not kept here
answer through Boolean arguments.
-/
namespace TermloopPlaybook
open TermloopRecordLists TermloopOutcome TermloopRuns TermloopStore TermloopRoutine List
open TermloopReports

structure PlaybookApply where
  configuration : PlaybookConfiguration
  stewardConfiguration : Option StewardConfiguration
  upsertRoutines : List TrackerConfiguration
  deleteRoutineIds : List String
  (progressUpdates progressInserts : List PlaybookStepProgress)

section Store
variable (store : RoutineStore) (configuration : PlaybookConfiguration)

/-- The part of the load-time check on Routines, documents and answers. -/
def validateCurrentState (elsewhere : Bool) : Bool :=
  elsewhere && !trackerConfigurationsAreInvalid store
    && !anyWithLater (fun playbook later => later.any
      (·.projectId == playbook.projectId)) store.playbookConfigurations
    && !anyWithLater (stepProgressConflicts store) store.playbookStepProgress

def inProject (projectId taskId : String) : Bool :=
  store.tasks.any fun task => task.id == taskId && task.projectId == projectId

def retained (answer : PlaybookStepProgress) : Bool :=
  !inProject store configuration.projectId answer.taskId
    || progressMatchesCurrentStep configuration answer

def withoutRoutines (ids : List String) : RoutineStore :=
  { store with
    trackerConfigurations := store.trackerConfigurations.filter fun routine =>
      !ids.contains routine.id
    uniqueRoutines := store.uniqueRoutines.sublist filter_sublist }

def sameQuestion (a b : PlaybookStepProgress) : Bool :=
  a.taskId == b.taskId && a.milestoneId == b.milestoneId

def insertProgress : List PlaybookStepProgress → List PlaybookStepProgress →
    Except StoreError (List PlaybookStepProgress)
  | progress, [] => .ok progress
  | progress, insert :: rest =>
    if !inProject store configuration.projectId insert.taskId || insert.verdict != .passed
        || !progressMatchesCurrentStep configuration insert
        || progress.any (sameQuestion insert) then .error .constraintViolation
    else insertProgress (progress ++ [insert]) rest

def isReplacedBy (update current : PlaybookStepProgress) : Bool :=
  current.taskId == update.taskId && current.milestoneId == update.milestoneId
    && current.routineId == update.routineId

def updateProgress : List PlaybookStepProgress → List PlaybookStepProgress →
    Except StoreError (List PlaybookStepProgress)
  | progress, [] => .ok progress
  | progress, update :: rest =>
    if !inProject store configuration.projectId update.taskId
        || !progress.any (isReplacedBy update) then .error .constraintViolation
    else updateProgress (updateFirst (isReplacedBy update) (fun _ => update) progress) rest

def stewardRefused (steward : StewardConfiguration) : Bool :=
  steward.projectId != configuration.projectId || !steward.enabled
    || !store.stewardConfigurations.any (·.projectId == steward.projectId)

def applied (apply : PlaybookApply) (progress : List PlaybookStepProgress) : RoutineStore :=
  { apply.upsertRoutines.foldl putRoutine (withoutRoutines store apply.deleteRoutineIds) with
    stewardConfigurations := apply.stewardConfiguration.elim store.stewardConfigurations
      fun steward => updateFirst (·.projectId == steward.projectId)
        (fun _ => steward) store.stewardConfigurations
    playbookConfigurations :=
      upsert (·.projectId) apply.configuration store.playbookConfigurations
    tasks := store.tasks, playbookStepProgress := progress }

def applyPlaybook (current elsewhere persisted : Bool) (apply : PlaybookApply) :
    Except StoreError RoutineStore :=
  let next := apply.configuration
  if !current then .error .revisionConflict
  else if apply.stewardConfiguration.any (stewardRefused store next)
      || apply.deleteRoutineIds.any (fun id => apply.upsertRoutines.any
        (·.id == id)) then .error .constraintViolation
  else do
    let inserted ← insertProgress store next (store.playbookStepProgress.filter
      (retained store next)) apply.progressInserts
    let progress ← updateProgress store next inserted apply.progressUpdates
    if !validateCurrentState (applied store apply progress) elsewhere then
      .error .constraintViolation
    else if !persisted then .error .io else .ok (applied store apply progress)

/-- `fits` says that the document is valid in itself and of a known Project, and that the
    Routines of its saved pipelines exist there. -/
def setPlaybookConfiguration (current fits persisted : Bool) : Except StoreError RoutineStore :=
  if !current then .error .revisionConflict
  else if !fits || configuration.milestones.any (fun milestone =>
      !store.trackerConfigurations.any fun routine => routine.id == milestone.routineId
        && routine.projectId == configuration.projectId) then .error .constraintViolation
  else if store.playbookForProject configuration.projectId == some configuration
      && store.playbookStepProgress.all (retained store configuration) then .ok store
  else if !persisted then .error .io
  else .ok { store with
    playbookConfigurations := upsert (·.projectId) configuration store.playbookConfigurations
    playbookStepProgress := store.playbookStepProgress.filter (retained store configuration) }

def recordPlaybookStepProgress (current persisted : Bool) (projectId : String)
    (answers : List PlaybookStepProgress) : Except StoreError RoutineStore :=
  let progress := applyStepProgress store.playbookStepProgress answers
  if !current then .error .revisionConflict
  else if (store.playbookForProject projectId).isNone then .error .notFound
  else if stepProgressBatchIsInvalid store projectId answers then .error .constraintViolation
  else if progress == store.playbookStepProgress then .ok store
  else if !persisted then .error .io else .ok { store with playbookStepProgress := progress }

def withoutFindings (taskId : String) (routine : TrackerConfiguration) : TrackerConfiguration :=
  if routine.triggerMode.isScheduled then routine
  else { routine with
    pendingRoutineFindings := routine.pendingRoutineFindings.filter fun finding =>
      !finding.relatedTaskIds.contains taskId }

def replacedProgress (taskId : String) (answers : List PlaybookStepProgress) : RoutineStore :=
  { store with
    playbookStepProgress :=
      (store.playbookStepProgress.filter (·.taskId != taskId)) ++ answers
    trackerConfigurations := store.trackerConfigurations.map (withoutFindings taskId)
    uniqueRoutines := pairwise_map.mpr (store.uniqueRoutines.imp fun apart => by
      unfold withoutFindings
      split <;> split <;> exact apart) }

def replaceTaskPlaybookProgress (current elsewhere persisted : Bool) (projectId taskId : String)
    (answers : List PlaybookStepProgress) : Except StoreError RoutineStore :=
  let next := replacedProgress store taskId answers
  if !current then .error .revisionConflict
  else if !inProject store projectId taskId || (store.playbookForProject projectId).isNone
      || answers.any (·.taskId != taskId)
      || !validateCurrentState next elsewhere then .error .constraintViolation
  else if next.playbookStepProgress == store.playbookStepProgress
      && next.trackerConfigurations == store.trackerConfigurations then .ok store
  else if !persisted then .error .io else .ok next

end Store

def Asked (store : RoutineStore) (answer : PlaybookStepProgress) : Prop :=
  ∃ task playbook, (store.tasks.find? (·.id == answer.taskId)) = some task ∧
    store.playbookForProject task.projectId = some playbook ∧
    progressMatchesCurrentStep playbook answer = true

def question (answer : PlaybookStepProgress) : String × String := (answer.taskId, answer.milestoneId)

structure Closed (store : RoutineStore) : Prop where
  single : store.playbookStepProgress.Pairwise fun a b => question b ≠ question a
  asked : ∀ answer ∈ store.playbookStepProgress, Asked store answer
  documents : store.playbookConfigurations.Pairwise fun a b => b.projectId ≠ a.projectId

section Facts
variable {store after : RoutineStore} {configuration : PlaybookConfiguration}
  {ans : PlaybookStepProgress} {later answers : List PlaybookStepProgress}
  {cur elsewhere saves : Bool}

theorem conflicts_eq_false
    (documents : store.playbookConfigurations.Pairwise fun a b => b.projectId ≠ a.projectId)
    (fine : stepProgressConflicts store ans later = false) :
    Asked store ans ∧ ∀ candidate ∈ later, question candidate ≠ question ans := by
  unfold stepProgressConflicts at fine
  split at fine
  · cases fine
  next task hit =>
  simp only [Bool.or_eq_false_iff, Bool.not_eq_false', any_eq_true, any_eq_false,
    Bool.and_eq_true, beq_iff_eq] at fine
  obtain ⟨⟨-,playbook,mem,own,asks⟩,apart⟩ := fine
  refine ⟨⟨task,playbook,hit,?_,asks⟩,fun candidate here same => ?_⟩
  · exact find?_eq_some_of_only mem (by simp [own]) fun other there same =>
      eq_of_key documents there mem ((beq_iff_eq.mp same).trans own.symm)
  · exact apart candidate here (Prod.mk.inj same)

theorem closed_of_valid (valid : validateCurrentState store elsewhere) : Closed store := by
  simp only [validateCurrentState, Bool.and_eq_true, Bool.not_eq_true'] at valid
  obtain ⟨⟨-,repeated⟩,conflicts⟩ := valid
  have documents : (∀ playbook ∈ store.playbookConfigurations, True) ∧
      store.playbookConfigurations.Pairwise fun a b => b.projectId ≠ a.projectId := by
    refine (anyWithLater_eq_false (fun playbook later => ?_) _).mp repeated
    simp
  have walk : ∀ progress, anyWithLater (stepProgressConflicts store) progress = false →
      (progress.Pairwise fun a b => question b ≠ question a) ∧
        ∀ ans ∈ progress, Asked store ans := by
    intro progress fine
    induction progress with
    | nil => exact ⟨.nil,nofun⟩
    | cons ans rest ih =>
      rw [anyWithLater, Bool.or_eq_false_iff] at fine
      obtain ⟨asked,apart⟩ := conflicts_eq_false documents.2 fine.1
      obtain ⟨single,others⟩ := ih fine.2
      exact ⟨pairwise_cons.mpr ⟨apart,single⟩,forall_mem_cons.mpr ⟨asked,others⟩⟩
  obtain ⟨single,asked⟩ := walk _ conflicts
  exact ⟨single,asked,documents.2⟩

theorem applyStepProgress_eq : applyStepProgress progress answers =
      answers.foldl (fun progress ans => upsert question ans progress) progress := by
  unfold applyStepProgress
  congr 1
  funext progress ans
  exact (upsert_eq question ans progress).symm

theorem recorded_closed (closed : Closed store)
    (fine : stepProgressBatchIsInvalid store pid answers = false)
    (tasks : after.tasks = store.tasks)
    (documents : after.playbookConfigurations = store.playbookConfigurations)
    (progress : after.playbookStepProgress =
      applyStepProgress store.playbookStepProgress answers) : Closed after := by
  rw [applyStepProgress_eq] at progress
  have walk : ∀ stored : List PlaybookStepProgress,
      (stored.Pairwise fun a b => question b ≠ question a) → (∀ ans ∈ stored, Asked store ans) →
      (answers.foldl (fun progress ans => upsert question ans progress) stored).Pairwise
        (fun a b => question b ≠ question a) ∧
      ∀ ans ∈ answers.foldl (fun progress ans => upsert question ans progress) stored,
        Asked store ans := by
    clear progress
    unfold stepProgressBatchIsInvalid at fine
    induction answers with
    | nil => exact fun _ single asked => ⟨single,asked⟩
    | cons ans rest ih =>
      intro stored single asked
      rw [anyWithLater, Bool.or_eq_false_iff, Bool.or_eq_false_iff] at fine
      refine ih fine.2 _ (upsert_distinct single) fun other mem => ?_
      rcases (mem_upsert single).mp mem with rfl | ⟨old,-⟩
      · exact (conflicts_eq_false closed.documents fine.1.2).1
      · exact asked other old
  obtain ⟨single,asked⟩ := walk _ closed.single closed.asked
  refine ⟨progress ▸ single,fun ans mem => ?_,documents ▸ closed.documents⟩
  simpa only [Asked, RoutineStore.playbookForProject, tasks, documents] using
    asked ans (progress ▸ mem)

theorem retained_closed (closed : Closed store) (tasks : after.tasks = store.tasks)
    (documents : after.playbookConfigurations =
      upsert (·.projectId) configuration store.playbookConfigurations)
    (progress : after.playbookStepProgress =
      store.playbookStepProgress.filter (retained store configuration)) : Closed after := by
  refine ⟨progress ▸ closed.single.sublist filter_sublist,fun ans mem => ?_,
    documents ▸ upsert_distinct closed.documents⟩
  obtain ⟨old,stays⟩ := mem_filter.mp (progress ▸ mem)
  obtain ⟨task,playbook,hit,own,asks⟩ := closed.asked ans old
  simp only [Asked, RoutineStore.playbookForProject, tasks, documents, find?_upsert]
  refine ⟨task,?_⟩
  by_cases mine : task.projectId = configuration.projectId
  · refine ⟨configuration,hit,by rw [if_pos mine],?_⟩
    have inside : inProject store configuration.projectId ans.taskId :=
      any_eq_true.mpr ⟨task,mem_of_find?_eq_some hit,by
        have named := find?_some hit
        simpa [mine] using named⟩
    simpa [retained, inside] using stays
  · exact ⟨playbook,hit,by rw [if_neg mine]; exact own,asks⟩

end Facts

inductive PlaybookAction where
  | apply (current elsewhere persisted : Bool) (apply : PlaybookApply)
  | set (current fits persisted : Bool) (configuration : PlaybookConfiguration)
  | record (current persisted : Bool) (projectId : String) (answers : List PlaybookStepProgress)
  | recordWithRoutine (projectId : String) (answers : List PlaybookStepProgress)
      (routine : TrackerConfiguration)
  | replaceTask (current elsewhere persisted : Bool) (projectId taskId : String)
      (answers : List PlaybookStepProgress)

def perform (store : RoutineStore) : PlaybookAction → Except StoreError RoutineStore
  | .apply current elsewhere persisted apply =>
    applyPlaybook store current elsewhere persisted apply
  | .set current fits persisted configuration =>
    setPlaybookConfiguration store configuration current fits persisted
  | .record current persisted projectId answers =>
    recordPlaybookStepProgress store current persisted projectId answers
  | .recordWithRoutine projectId answers routine =>
    recordPlaybookStepProgressWithRoutine store projectId answers routine
  | .replaceTask current elsewhere persisted projectId taskId answers =>
    replaceTaskPlaybookProgress store current elsewhere persisted projectId taskId answers

def Step (store : RoutineStore) (action : PlaybookAction) (after : RoutineStore) : Prop :=
  perform store action = .ok after ∨ (∃ error, perform store action = .error error) ∧ after = store

theorem applyPlaybook_valid {store after : RoutineStore}
    (done : applyPlaybook store cur elsewhere saves apply = .ok after) :
    ∃ inserted progress, insertProgress store apply.configuration (store.playbookStepProgress.filter
        (retained store apply.configuration)) apply.progressInserts = .ok inserted ∧
      updateProgress store apply.configuration inserted apply.progressUpdates = .ok progress ∧
      after = applied store apply progress ∧ validateCurrentState after elsewhere := by
  obtain ⟨-,done⟩ := guard_passed done
  obtain ⟨-,done⟩ := guard_passed done
  obtain ⟨inserted,first,done⟩ := bind_passed done
  obtain ⟨progress,second,done⟩ := bind_passed done
  obtain ⟨valid,done⟩ := guard_passed done
  obtain ⟨-,done⟩ := guard_passed done
  cases done
  exact ⟨inserted,progress,first,second,rfl,by simpa using valid⟩

theorem step_closed {store after : RoutineStore} (closed : Closed store)
    (step : Step store action after) : Closed after := by
  rcases step with done | ⟨-,rfl⟩
  case inr => exact closed
  cases action with
  | apply =>
    obtain ⟨-,-,-,-,-,valid⟩ := applyPlaybook_valid done
    exact closed_of_valid valid
  | set =>
    obtain ⟨-,done⟩ := guard_passed done
    obtain ⟨-,done⟩ := guard_passed done
    split at done
    · cases done
      exact closed
    · obtain ⟨-,done⟩ := guard_passed done
      cases done
      exact retained_closed closed rfl rfl rfl
  | record =>
    obtain ⟨-,done⟩ := guard_passed done
    obtain ⟨-,done⟩ := guard_passed done
    obtain ⟨fine,done⟩ := guard_passed done
    split at done
    · cases done
      exact closed
    · obtain ⟨-,done⟩ := guard_passed done
      cases done
      exact recorded_closed closed (eq_false_of_ne_true fine) rfl rfl rfl
  | recordWithRoutine pid answers routine =>
    obtain ⟨fine,done⟩ := guard_passed done
    obtain ⟨-,done⟩ := guard_passed done
    obtain ⟨-,done⟩ := guard_passed done
    obtain ⟨-,done⟩ := guard_passed done
    cases done
    rw [Bool.or_eq_true, not_or] at fine
    refine recorded_closed closed (eq_false_of_ne_true fine.2) ?_ ?_ rfl
    · unfold recorded putRoutine
      split <;> rfl
    · unfold recorded putRoutine
      split <;> rfl
  | replaceTask =>
    obtain ⟨-,done⟩ := guard_passed done
    obtain ⟨checks,done⟩ := guard_passed done
    split at done
    · cases done
      exact closed
    · obtain ⟨-,done⟩ := guard_passed done
      cases done
      rw [Bool.or_eq_true, not_or] at checks
      exact closed_of_valid (by simpa using checks.2)

theorem playbook_progress_stays_closed {store after : RoutineStore} {elsewhere : Bool}
    {actions : List PlaybookAction} (valid : validateCurrentState store elsewhere = true)
    (run : Run Step store actions after) : Closed after := by
  exact run_invariant Closed step_closed run (closed_of_valid valid)

def pipeline (ids : List String) : PlaybookConfiguration :=
  ⟨"p", ids.map fun id => ⟨id, "Step", .automatic, "r", 60, none⟩⟩

def board (ids answered : List String) : RoutineStore where
  trackerConfigurations := []
  stewardConfigurations := []
  playbookConfigurations := [pipeline ids]
  tasks := [⟨"t", "p", "Task", .opened, none, 0⟩]
  playbookStepProgress := answered.map fun id => ⟨"t", id, "r", .passed, "", 1, none, .routine, none⟩
  uniqueRoutines := .nil

def draftless : PlaybookApply := ⟨pipeline ["built"], none, [], [], [], []⟩

/-- The answers on two steps are recorded; the next pipeline asks for one of them. -/
theorem replaced_pipeline_retires_answer :
    Run Step (board ["draft", "built"] []) [.record true true "p"
        (board [] ["draft", "built"]).playbookStepProgress, .apply true true true draftless]
      (board ["built"] ["built"]) ∧ Closed (board ["built"] ["built"]) := by
  have valid : validateCurrentState (board ["draft", "built"] []) true = true := by decide +kernel
  have fine : stepProgressBatchIsInvalid (board ["draft", "built"] []) "p"
      (board [] ["draft", "built"]).playbookStepProgress = false := by decide +kernel
  have recorded : Step (board ["draft", "built"] []) (.record true true "p"
      (board [] ["draft", "built"]).playbookStepProgress)
      (board ["draft", "built"] ["draft", "built"]) := by
    refine .inl ?_
    rw [perform, recordPlaybookStepProgress, fine]
    rfl
  have replaced : Step (board ["draft", "built"] ["draft", "built"])
      (.apply true true true draftless) (board ["built"] ["built"]) := .inl rfl
  have run := Run.cons recorded (run_single replaced)
  exact ⟨run,playbook_progress_stays_closed valid run⟩

end TermloopPlaybook
