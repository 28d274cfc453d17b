import Termloop.Core.ReportValidity

/-!
Reports as steps of the running system. Between two reports anything may happen: checks
are claimed and cancelled, Tasks move, the store is saved by others. The stored Routines
stay valid throughout, since the store takes nothing else; what can fail is the report.
-/
namespace TermloopReportRuns
open TermloopRecordLists TermloopOutcome TermloopRuns TermloopStore TermloopWorkflow List
open TermloopRoutine TermloopTracker TermloopReports TermloopStorable TermloopText

inductive Call where
  | complete (capability : TrackerCheckCapability) (update : RoutineUpdate) (reportId : String)
      (completedAt : Nat)
  | problem (capability : TrackerCheckCapability) (message : String)
      (sourceReferences : List String) (reportId : String) (completedAt : Nat)
  | answer (capability : TrackerCheckCapability) (verdicts : List StewardStepVerdict)
      (reportId : String) (completedAt : Nat)

def failure {α : Type} : Except CoreError α → Option CoreError
  | .ok _ => none
  | .error error => some error

namespace Call

def capability : Call → TrackerCheckCapability
  | .complete capability _ _ _ | .problem capability _ _ _ _ | .answer capability _ _ _ =>
    capability

def newIds : Call → List String
  | .complete _ update _ _ => update.findings.map (·.id)
  | .problem _ _ _ reportId _ => [reportId]
  | .answer _ verdicts reportId _ =>
    (List.range verdicts.length).map fun index => reportId ++ "-" ++ toString index

variable (digest : Digest) (hasProposal : String → Bool) (core : TrackerCore)

/-- The configuration that a call hands to the store once its own checks are passed. -/
def handsOver : Call → Except CoreError TrackerConfiguration
  | .complete capability update reportId completedAt =>
    (prepareCompletion core.store core.runtime capability update reportId completedAt).map
      (·.configuration)
  | .problem capability message sourceReferences reportId completedAt =>
    (prepareProblem digest hasProposal core.store core.runtime capability message sourceReferences
      reportId completedAt).map (·.configuration)
  | .answer capability verdicts reportId completedAt =>
    (prepareVerdicts digest hasProposal core.store core.runtime capability verdicts reportId
      completedAt).map (·.configuration)

def perform : Call → Option CoreError × TrackerCore
  | .complete capability update reportId completedAt =>
    let done := completeStewardRoutine core capability update reportId completedAt
    (failure done.1, done.2)
  | .problem capability message sourceReferences reportId completedAt =>
    let done := reportStewardRoutineProblem digest hasProposal core capability message
      sourceReferences reportId completedAt
    (failure done.1, done.2)
  | .answer capability verdicts reportId completedAt =>
    let done := applyPlaybookStepVerdicts digest hasProposal core capability verdicts reportId
      completedAt
    (failure done.1, done.2)

def Fits (configuration : TrackerConfiguration) : Call → Prop
  | .complete _ update _ _ => ¬ Clashes configuration update.findings
  | .problem capability message sourceReferences reportId completedAt =>
    let report := problemReport capability (trim message) sourceReferences
      (problemTaskIds core.store core.runtime capability configuration) reportId completedAt
    ProblemFits configuration (problemKey digest configuration report) report completedAt
  | .answer capability verdicts reportId completedAt =>
    ∀ assignment, claimedAssignment core.store core.runtime capability = some assignment →
      ∀ verdict ∈ verdicts, verdict.verdict ≠ .passed →
        WaitingFits configuration
          (stepWaitingSourceKey digest assignment.milestone.id verdict.taskId
            (trim verdict.evidence))
          reportId assignment
          (stepAnswer assignment (core.runtime.claimedStepEvaluation capability) completedAt
            verdict)
          completedAt

def AnswersValid : Call → Prop
  | .complete _ _ _ _ | .problem _ _ _ _ _ => True
  | .answer capability verdicts _ completedAt =>
    ∀ assignment, claimedAssignment core.store core.runtime capability = some assignment →
      ∀ verdict ∈ verdicts,
        progressIsValid (stepAnswer assignment (core.runtime.claimedStepEvaluation capability)
          completedAt verdict) = true

def FreshIds (call : Call) : Prop :=
  ∀ configuration ∈ core.store.trackerConfigurations,
    ∀ pending ∈ configuration.pendingRoutineFindings, pending.id ∉ call.newIds

end Call

def RoutinesValid (store : RoutineStore) : Prop :=
  ∀ configuration ∈ store.trackerConfigurations, configuration.isValid = true

/-- Findings name Tasks that exist, and no two Tasks have one id. -/
structure StoreSound (store : RoutineStore) : Prop where
  routines : trackerConfigurationsAreInvalid store = false
  tasks : store.tasks.Pairwise fun a b => b.id ≠ a.id

inductive Event where
  | report (hasProposal : String → Bool) (call : Call)
  | other (action : TermloopClaims.Action)

/-- Whatever else is saved in between is valid, as the store demands of every save. -/
def Step (digest : Digest) (core : TrackerCore) : Event → TrackerCore → Prop
  | .report hasProposal call, after => (call.perform digest hasProposal core).2 = after
  | .other action, after =>
    TermloopClaims.Step core action after ∧ ∀ store, action = .save store → RoutinesValid store

section Saving
variable {store : RoutineStore} {config : TrackerConfiguration}

variable {pid : String} {rt : TrackerRuntimeState} {cap : TrackerCheckCapability}
  {step : PlaybookStepAssignment} {answer : PlaybookStepProgress}

theorem putRoutine_tasks : (putRoutine store config).tasks = store.tasks := by
  rw [putRoutine]
  split <;> rfl

theorem mem_putRoutine (here : other ∈ (putRoutine store config).trackerConfigurations) :
    other ∈ store.trackerConfigurations ∨ other = config := by
  rw [putRoutine] at here
  split at here
  · rcases mem_updateFirst here with old | ⟨_,_,new⟩
    · exact .inl old
    · exact .inr new
  · rcases mem_append.mp here with old | new
    · exact .inl old
    · exact .inr (mem_singleton.mp new)

theorem putRoutine_mem : config ∈ (putRoutine store config).trackerConfigurations :=
    by
  rw [putRoutine]
  split
  case isTrue stored =>
    obtain ⟨found,hit⟩ := Option.isSome_iff_exists.mp
      (find?_isSome.mpr (any_eq_true.mp stored))
    have new := @changed_mem_updateFirst _ _ (fun _ => config) _ _ hit
    exact new
  case isFalse => exact mem_append_right _ (mem_singleton_self _)

theorem routine?_mem (found : store.routine? rid = some config) :
    config ∈ store.trackerConfigurations ∧ config.id = rid := by
  have hit := find?_some found
  exact ⟨mem_of_find?_eq_some found,beq_iff_eq.mp hit⟩

theorem set_keeps_valid {after : RoutineStore} (valid : RoutinesValid store)
    (saved : setTrackerConfiguration store config = .ok after) : RoutinesValid after := by
  obtain ⟨passed,done⟩ := guard_passed saved
  cases done
  simp only [Bool.or_eq_true, not_or, Bool.not_eq_true, Bool.not_eq_false'] at passed
  intro other here
  rcases mem_putRoutine here with old | rfl
  · exact valid other old
  · exact passed.1.1

theorem set_refuses_invalid (invalid : config.isValid = false) :
    setTrackerConfiguration store config = .error .constraintViolation := by
  rw [setTrackerConfiguration, if_pos (by simp [invalid])]

theorem set_accepts (hit : store.routine? stored.id = some stored)
    (sameId : config.id = stored.id) (sameProject : config.projectId =
      stored.projectId) (valid : config.isValid)
    (tasks : sameProjectTasksExist store config.projectId config.relatedTaskIds) :
    setTrackerConfiguration store config = .ok (putRoutine store config) := by
  rw [setTrackerConfiguration, if_neg]
  rw [sameId, hit, valid, tasks, sameProject]
  simp

theorem invalid_iff : trackerConfigurationsAreInvalid store = false ↔
      ∀ config ∈ store.trackerConfigurations, config.isValid ∧
        sameProjectTasksExist store config.projectId config.relatedTaskIds ∧
        sameProjectTasksExist store config.projectId
          (config.pendingRoutineFindings.flatMap (·.relatedTaskIds)) = true := by
  simp only [trackerConfigurationsAreInvalid, any_eq_false, Bool.or_eq_true, not_or,
    Bool.not_eq_true, Bool.not_eq_false', and_assoc]

theorem record_keeps_valid {after : RoutineStore}
    (saved : recordPlaybookStepProgressWithRoutine store pid answers config =
      .ok after) : RoutinesValid after := by
  obtain ⟨-,saved⟩ := guard_passed saved
  obtain ⟨-,saved⟩ := guard_passed saved
  obtain ⟨-,saved⟩ := guard_passed saved
  obtain ⟨sound,done⟩ := guard_passed saved
  cases done
  rw [Bool.not_eq_true, invalid_iff] at sound
  exact fun other here => (sound other here).1

theorem record_refuses_invalid (stored : store.trackerConfigurations.any (fun cur => cur.id ==
      config.id && cur.projectId == pid)) (invalid : config.isValid = false) :
    recordPlaybookStepProgressWithRoutine store pid answers config =
      .error .constraintViolation := by
  have fails : trackerConfigurationsAreInvalid (recorded store config answers) := by
    by_contra holds
    rw [Bool.not_eq_true, invalid_iff] at holds
    have valid := (holds config putRoutine_mem).1
    rw [invalid] at valid
    cases valid
  rw [recordPlaybookStepProgressWithRoutine, stored]
  split
  · rfl
  rw [if_neg (by decide)]
  split <;> rfl

theorem claimedAssignment_facts (hit : store.routine? cap.trackerId = some config)
    (claimed : claimedAssignment store rt cap = some step) :
    ∃ playbook task, store.playbookForProject config.projectId = some playbook ∧
      step.projectId = config.projectId ∧
      step.milestone ∈ playbook.milestones ∧
      step.milestone.routineId = cap.trackerId ∧
      task ∈ store.tasks ∧ task.id = step.waiting.taskId ∧
      task.projectId = config.projectId := by
  obtain ⟨milestoneId,-,claimed⟩ := Option.bind_eq_some_iff.mp claimed
  obtain ⟨tid,-,claimed⟩ := Option.bind_eq_some_iff.mp claimed
  have assigned := (Option.filter_eq_some_iff.mp claimed).1
  obtain ⟨playbook,here,assigned⟩ := Option.bind_eq_some_iff.mp assigned
  rw [RoutineStore.routinePlaybook, hit, Option.bind_some] at here
  have project := find?_some here
  rw [beq_iff_eq] at project
  obtain ⟨standing,stands,assigned⟩ := Option.bind_eq_some_iff.mp assigned
  obtain ⟨asked,question,rfl⟩ := Option.map_eq_some_iff.mp assigned
  obtain ⟨task,board,rfl⟩ := mem_map.mp (mem_of_find?_eq_some stands)
  obtain ⟨present,opened⟩ := mem_filter.mp board
  simp only [Bool.and_eq_true, beq_iff_eq] at opened
  rw [PipelineStanding.question] at question
  split at question
  · cases question
  next index =>
    obtain ⟨milestone,at_index,question⟩ := Option.bind_eq_some_iff.mp question
    split at question
    · cases question
    next same =>
      cases question
      rw [Bool.not_eq_true, bne_eq_false_iff_eq] at same
      exact ⟨playbook,task,here,project,mem_of_getElem? at_index,same,present,rfl,
        opened.1.1.trans project⟩

theorem single_answer_fits (unique : store.tasks.Pairwise fun a b => b.id ≠ a.id)
    (hit : store.routine? cap.trackerId = some config)
    (claimed : claimedAssignment store rt cap = some step)
    (valid : progressIsValid answer) (task : answer.taskId = step.waiting.taskId)
    (milestone : answer.milestoneId = step.milestone.id)
    (routine : answer.routineId = step.milestone.routineId) :
    stepProgressBatchIsInvalid store step.projectId [answer] = false := by
  obtain ⟨playbook,stands,here,project,asks,-,present,named,owner⟩ :=
    claimedAssignment_facts hit claimed
  have known : store.tasks.find? (·.id == answer.taskId) = some stands := by
    refine find?_eq_some_of_only present (beq_iff_eq.mpr (named.trans task.symm)) ?_
    intro other there same
    exact eq_of_key unique there present ((beq_iff_eq.mp same).trans (task.trans named.symm))
  have inProject : store.tasks.any (fun other =>
      other.id == answer.taskId && other.projectId == step.projectId) := by
    refine any_eq_true.mpr ⟨stands,present,?_⟩
    simp [named, task, owner, project]
  have cur : store.playbookConfigurations.any (fun configured =>
      configured.projectId == stands.projectId && progressMatchesCurrentStep configured answer) =
        true := by
    refine any_eq_true.mpr ⟨playbook,mem_of_find?_eq_some here,?_⟩
    have sameProject := find?_some here
    have matching : progressMatchesCurrentStep playbook answer :=
      any_eq_true.mpr ⟨step.milestone,asks,by simp [milestone, routine]⟩
    rw [matching, owner, Bool.and_true]
    exact sameProject
  simp only [stepProgressBatchIsInvalid, anyWithLater, stepProgressConflicts, inProject, known,
    valid, cur, any_nil, Bool.not_true, Bool.or_false]

theorem record_accepts {after : TrackerConfiguration} (sound : StoreSound store)
    (hit : store.routine? cap.trackerId = some config)
    (claimed : claimedAssignment store rt cap = some step)
    (sameId : after.id = config.id) (sameProject : after.projectId = config.projectId)
    (demand : after.triggerMode.isScheduled = false) (valid : after.isValid)
    (tasks : sameProjectTasksExist store after.projectId after.relatedTaskIds)
    (findings : sameProjectTasksExist store after.projectId (after.pendingRoutineFindings.flatMap
      (·.relatedTaskIds))) (fits : stepProgressBatchIsInvalid store step.projectId [answer] = false)
    (routine : answer.routineId = step.milestone.routineId) :
    recordPlaybookStepProgressWithRoutine store step.projectId [answer] after =
      .ok (recorded store after [answer]) := by
  obtain ⟨playbook,-,here,project,-,asked,-⟩ := claimedAssignment_facts hit claimed
  obtain ⟨present,named⟩ := routine?_mem hit
  have stored : store.trackerConfigurations.any (fun cur =>
      cur.id == after.id && cur.projectId == step.projectId) :=
    any_eq_true.mpr ⟨config,present,by simp [sameId, project]⟩
  have answers : ([answer].any (·.routineId != after.id)) = false := by
    simp [routine, asked, sameId, named]
  have whole : trackerConfigurationsAreInvalid (recorded store after [answer]) = false := by
    apply invalid_iff.mpr
    intro other there
    have sameTasks : (recorded store after [answer]).tasks = store.tasks := putRoutine_tasks
    simp only [sameProjectTasksExist, sameTasks]
    rcases mem_putRoutine there with old | rfl
    · exact invalid_iff.mp sound.routines other old
    · exact ⟨valid,tasks,findings⟩
  rw [recordPlaybookStepProgressWithRoutine, stored, answers, whole, fits, demand, project, here,
    sameProject]
  simp

end Saving
section Reports
variable {digest : Digest} {hasProposal : String → Bool} {core : TrackerCore} {call : Call}
variable {handed config : TrackerConfiguration}

section
variable (accepted : call.handsOver digest hasProposal core = .ok handed)
include accepted

theorem accepted_routine :
    ∃ config, core.store.routine? call.capability.trackerId = some config := by
  cases call with
  | complete cap update reportId done =>
    obtain ⟨prepared,passed,-⟩ := map_passed accepted
    obtain ⟨config,_,hit,-⟩ := completion_prepared passed
    exact ⟨config,hit⟩
  | problem cap msg sourceReferences reportId done =>
    obtain ⟨prepared,passed,-⟩ := map_passed accepted
    obtain ⟨config,_,_,hit,-⟩ := problem_prepared passed
    exact ⟨config,hit⟩
  | answer cap verdicts reportId done =>
    obtain ⟨prepared,passed,-⟩ := map_passed accepted
    obtain ⟨config,_,_,_,_,hit,-⟩ := verdicts_prepared passed
    exact ⟨config,hit⟩

theorem handed_valid_iff (hit : core.store.routine? call.capability.trackerId = some config)
    (sound : Sound config) (fresh : call.FreshIds core) :
    handed.isValid ↔ call.Fits digest core config := by
  have new := fresh config (routine?_mem hit).1
  cases call with
  | complete cap update reportId done =>
    obtain ⟨prepared,passed,rfl⟩ := map_passed accepted
    refine completion_valid_iff passed hit sound ?_
    intro pending present finding reported same
    exact new pending present (mem_map.mpr ⟨finding,reported,same⟩)
  | problem cap msg sourceReferences reportId done =>
    obtain ⟨prepared,passed,rfl⟩ := map_passed accepted
    obtain ⟨cur,keys,findings,here,words,-⟩ := problem_prepared passed
    have same : cur = config := Option.some.inj (here.symm.trans hit)
    rw [problem_valid_iff passed hit sound, words, same]
    · rfl
    · intro pending present same
      exact new pending present (mem_singleton.mpr same.symm)
  | answer cap verdicts reportId done =>
    obtain ⟨prepared,passed,rfl⟩ := map_passed accepted
    obtain ⟨cur,step,verdict,keys,findings,here,-,claimed,-,rfl,-,evidence,
      size,-,noted,shape⟩ := verdicts_prepared passed
    have same : cur = config := Option.some.inj (here.symm.trans hit)
    subst same
    have criterion := answer_noted_iff (by exact digestKey_valid (by decide) (by decide))
      (by exact evidence) (by exact size) sound (fun pending present same => new pending present
        (mem_map.mpr ⟨0,mem_range.mpr Nat.one_pos,same⟩)) noted
    rw [shape, isValid_iff, rewritten_sound_iff sound, criterion, Call.Fits, claimed]
    constructor
    · rintro fits _ ⟨⟩ other named
      rw [mem_singleton.mp named]
      exact fits
    · exact fun fits => fits step rfl verdict (mem_singleton_self _)

theorem invalid_is_refused (invalid : handed.isValid = false) :
    call.perform digest hasProposal core = (some (.store .constraintViolation), core) := by
  cases call with
  | complete cap update reportId done =>
    obtain ⟨prepared,passed,rfl⟩ := map_passed accepted
    simp only [Call.perform, completeStewardRoutine, passed, set_refuses_invalid invalid, failure]
  | problem cap msg sourceReferences reportId done =>
    obtain ⟨prepared,passed,rfl⟩ := map_passed accepted
    simp only [Call.perform, reportStewardRoutineProblem, passed, set_refuses_invalid invalid,
      failure]
  | answer cap verdicts reportId done =>
    obtain ⟨prepared,passed,rfl⟩ := map_passed accepted
    obtain ⟨cur,step,verdict,keys,findings,here,-,claimed,named,-,-,-,-,-,-,
      shape⟩ := verdicts_prepared passed
    obtain ⟨_,_,_,project,-⟩ := claimedAssignment_facts here claimed
    have stored : core.store.trackerConfigurations.any (fun other =>
        other.id == prepared.configuration.id
          && other.projectId == prepared.assignment.projectId) :=
      any_eq_true.mpr ⟨cur,(routine?_mem here).1,by simp [shape, named, project]⟩
    simp only [Call.perform, applyPlaybookStepVerdicts, passed,
      record_refuses_invalid stored invalid, failure]

end

theorem answer_noted_tasks {keys : List String}
    (noted : AnswerNoted config sourceKey reportId step answer done keys
      findings) (here : finding ∈ findings) (about : tid ∈ finding.relatedTaskIds) :
    tid = answer.taskId ∨ ∃ old ∈ config.pendingRoutineFindings, tid ∈ old.relatedTaskIds := by
  cases noted with
  | passed => exact .inr ⟨finding,mem_of_mem_filter here,about⟩
  | waiting waiting noted =>
    cases noted with
    | pending | off | unchanged => exact .inr ⟨finding,here,about⟩
    | refreshed =>
      rcases mem_updateFirst here with old | ⟨found,hit,rfl⟩
      · exact .inr ⟨finding,old,about⟩
      · exact .inr ⟨found,mem_of_find?_eq_some hit,about⟩
    | added =>
      rcases mem_append.mp here with old | new
      · exact .inr ⟨finding,old,about⟩
      · rw [mem_singleton.mp new] at about
        exact .inl (mem_singleton.mp about)

theorem tasksExist_iff : sameProjectTasksExist store pid taskIds ↔
      ∀ tid ∈ taskIds, ∃ task ∈ store.tasks, task.id = tid ∧ task.projectId = pid := by
  simp only [sameProjectTasksExist, all_eq_true, any_eq_true, Bool.and_eq_true, beq_iff_eq]

theorem answer_findings_exist {keys : List String} (sound : StoreSound core.store)
    (hit : core.store.routine? cap.trackerId = some config)
    (claimed : claimedAssignment core.store core.runtime cap = some step)
    (focused : step.waiting.taskId = answer.taskId)
    (noted : AnswerNoted config sourceKey reportId step answer done keys findings) :
    sameProjectTasksExist core.store config.projectId (findings.flatMap (·.relatedTaskIds)) := by
  obtain ⟨-,-,pre⟩ := invalid_iff.mp sound.routines config (routine?_mem hit).1
  obtain ⟨_,task,-,-,-,-,here,named,project⟩ := claimedAssignment_facts hit claimed
  apply tasksExist_iff.mpr
  intro tid mem
  obtain ⟨finding,there,about⟩ := mem_flatMap.mp mem
  rcases answer_noted_tasks noted there about with own | ⟨old,pending,known⟩
  · exact ⟨task,here,named.trans (focused.trans own.symm),project⟩
  · exact tasksExist_iff.mp pre tid (mem_flatMap.mpr ⟨old,pending,known⟩)

theorem valid_is_stored (accepted : call.handsOver digest hasProposal core = .ok handed)
    (valid : handed.isValid) (sound : StoreSound core.store)
    (answers : call.AnswersValid core) : (call.perform digest hasProposal core).1 = none := by
  cases call with
  | complete cap update reportId done =>
    obtain ⟨prepared,passed,rfl⟩ := map_passed accepted
    obtain ⟨stored,revision,hit,context,-,-,-,shape⟩ := completion_prepared passed
    have named := (routine?_mem hit).2
    simp only [routineContextIsInvalid, Bool.or_eq_false_iff, Bool.not_eq_false'] at context
    have saved : setTrackerConfiguration core.store prepared.configuration =
        .ok (putRoutine core.store prepared.configuration) :=
      set_accepts (named ▸ hit) (by rw [shape]; rfl) (by rw [shape]; rfl) valid
        (by rw [shape]; exact context.2)
    simp only [Call.perform, completeStewardRoutine, passed, saved, failure]
  | problem cap msg sourceReferences reportId done =>
    obtain ⟨prepared,passed,rfl⟩ := map_passed accepted
    obtain ⟨stored,keys,findings,hit,-,-,-,shape⟩ := problem_prepared passed
    obtain ⟨here,named⟩ := routine?_mem hit
    obtain ⟨-,tasks,-⟩ := invalid_iff.mp sound.routines stored here
    have saved : setTrackerConfiguration core.store prepared.configuration =
        .ok (putRoutine core.store prepared.configuration) :=
      set_accepts (named ▸ hit) (by rw [shape]) (by rw [shape]) valid (by rw [shape]; exact tasks)
    simp only [Call.perform, reportStewardRoutineProblem, passed, saved, failure]
  | answer cap verdicts reportId done =>
    obtain ⟨prepared,passed,rfl⟩ := map_passed accepted
    obtain ⟨stored,step,verdict,keys,findings,hit,demand,claimed,named,rfl,focused,
      -,-,answered,noted,shape⟩ := verdicts_prepared passed
    obtain ⟨-,tasks,-⟩ := invalid_iff.mp sound.routines stored (routine?_mem hit).1
    have answerValid := answers step claimed verdict (mem_singleton_self _)
    have fits := single_answer_fits sound.tasks hit claimed answerValid focused.symm rfl rfl
    have exist := answer_findings_exist sound hit claimed focused noted
    have sameId : prepared.configuration.id = stored.id := by rw [shape]
    have saved := record_accepts sound hit claimed sameId (by rw [shape])
      (by rw [shape]; exact demand) valid (by rw [shape]; exact tasks) (by rw [shape]; exact exist)
      fits rfl
    simp only [Call.perform, applyPlaybookStepVerdicts, passed, named, answered, saved, failure]

theorem call_keeps_valid (valid : RoutinesValid core.store) :
    RoutinesValid (call.perform digest hasProposal core).2.store := by
  cases call with
  | complete cap update reportId done =>
    dsimp only [Call.perform, completeStewardRoutine]
    split
    · exact valid
    next prepared =>
      split
      · exact valid
      next saved => exact set_keeps_valid valid saved
  | problem cap msg sourceReferences reportId done =>
    dsimp only [Call.perform, reportStewardRoutineProblem]
    split
    · exact valid
    next prepared =>
      split
      · exact valid
      next saved => exact set_keeps_valid valid saved
  | answer cap verdicts reportId done =>
    dsimp only [Call.perform, applyPlaybookStepVerdicts]
    split
    · exact valid
    next prepared =>
      split
      · exact valid
      next saved => exact record_keeps_valid saved

theorem step_keeps_valid {after : TrackerCore} (valid : RoutinesValid core.store)
    (step : Step digest core event after) : RoutinesValid after.store := by
  cases event with
  | report hasProposal call =>
    cases step
    exact call_keeps_valid valid
  | other action =>
    obtain ⟨⟨-,performed⟩,saves⟩ := step
    cases performed
    cases action with
    | save store => exact saves store rfl
    | _ => exact valid

/-- A report that passes its own checks hands over a valid configuration exactly when it
    fits the stored Routine, and is refused otherwise. That it is stored is said of the store
    modelled here, which has no revision, disk, Project list or evaluation records. -/
theorem accepted_report_is_storable_iff {start : TrackerCore} {events : List Event}
    (valid : RoutinesValid start.store) (run : Run (Step digest) start events core)
    (accepted : call.handsOver digest hasProposal core = .ok handed) (fresh : call.FreshIds core) :
    ∃ configuration, core.store.routine? call.capability.trackerId = some configuration ∧
      (handed.isValid = true ↔ call.Fits digest core configuration) ∧
      (¬ call.Fits digest core configuration →
        call.perform digest hasProposal core = (some (.store .constraintViolation), core)) ∧
      (call.Fits digest core configuration → StoreSound core.store → call.AnswersValid core →
        (call.perform digest hasProposal core).1 = none) := by
  obtain ⟨configuration,found⟩ := accepted_routine accepted
  have invariant := run_invariant (fun core => RoutinesValid core.store) step_keeps_valid run valid
  have sound := isValid_iff.mp (invariant configuration (routine?_mem found).1)
  have criterion := handed_valid_iff accepted found sound fresh
  refine ⟨configuration,found,criterion,fun unfit => ?_,fun fits => ?_⟩
  · exact invalid_is_refused accepted (Bool.eq_false_iff.mpr fun is => unfit (criterion.mp is))
  · exact valid_is_stored accepted (criterion.mpr fits)

end Reports

/-- SHA-256 at the one input of the runs below. -/
def waitingDigest : Digest where
  hex parts := if parts = ["reviewed", "t", "No review yet."] then
      "29fc0648ec5b953cb6018ee03493f2a7ce0d2cb0f4d221e1cbf0b5bbdca98c22"
    else "0000000000000000000000000000000000000000000000000000000000000000"
  size parts := by split <;> decide

def reviewRoutine : TrackerConfiguration :=
  { id := "review", projectId := "p", triggerMode := .onDemand, name := "Review"
    prompt := "Was it reviewed?", stewardInstructions := "", enabled := true
    scheduleIntervalSeconds := 3600, generation := 1, contextMarkdown := "", contextRevision := 1
    actionHandling := .off, updatedAt := 5 }

def board : TrackerCore :=
  { store :=
      { trackerConfigurations := [reviewRoutine]
        stewardConfigurations :=
          [{ projectId := "p", enabled := true, generation := 1, executorSessionId := none }]
        playbookConfigurations :=
          [{ projectId := "p"
             milestones :=
               [{ id := "reviewed", title := "Reviewed", gate := .automatic, routineId := "review"
                  retryDelaySeconds := 60, approver := none }] }]
        tasks :=
          [{ id := "t", projectId := "p", title := "Login", status := .opened, archivedAt := none
             rank := 0 }]
        playbookStepProgress := []
        uniqueRoutines := by decide }
    agentStates := ∅, runtime := .empty }

def claimAt (checkId : String) (now : Nat) : Event := .other (.claimStep "p" checkId now)

def reviewCapability (checkId : String) (claimedAt : Nat) : TrackerCheckCapability :=
  { projectId := "p", trackerId := "review", checkId := checkId, generation := 1
    claimedAt := claimedAt, deadline := claimedAt + 600000, stewardGeneration := 1
    stewardSessionId := "" }

def stillWaiting (checkId reportId : String) (claimedAt : Nat) : Call :=
  .answer (reviewCapability checkId claimedAt)
    [{ taskId := "t", verdict := .waiting, evidence := "No review yet." }] reportId (claimedAt + 1)

def noProposal : String → Bool := fun _ => false

def claimedOnce : TrackerCore := TermloopClaims.perform board (.claimStep "p" "check-1" 1000)

def answeredOnce : TrackerCore :=
  ((stillWaiting "check-1" "report-1" 1000).perform waitingDigest noProposal claimedOnce).2

def claimedTwice : TrackerCore :=
  TermloopClaims.perform answeredOnce (.claimStep "p" "check-2" 70000)

def waitingRoutine (keys : List String) (claimedAt : Nat) : TrackerConfiguration :=
  { reviewRoutine with
    recentSourceKeys := keys, lastCheckStartedAt := some claimedAt
    lastAttemptAt := some (claimedAt + 1), lastSuccessfulReportAt := some (claimedAt + 1)
    updatedAt := claimedAt + 1 }

def waitingKey : String := stepWaitingSourceKey waitingDigest "reviewed" "t" "No review yet."

theorem board_valid : RoutinesValid board.store := by
  unfold RoutinesValid
  decide

theorem claim_step (new : ∀ held ∈ core.runtime.checks, held.2.checkId ≠ checkId) :
    Step waitingDigest core (claimAt checkId now)
      (TermloopClaims.perform core (.claimStep "p" checkId now)) := by
  refine ⟨⟨?_,rfl⟩,nofun⟩
  intro drawn brought
  cases brought
  exact new

theorem first_hands_over :
    (stillWaiting "check-1" "report-1" 1000).handsOver waitingDigest noProposal claimedOnce =
      .ok (waitingRoutine [waitingKey] 1000) := by
  rfl

theorem first_answer_is_stored : (waitingRoutine [waitingKey] 1000).isValid = true ∧
      ∃ configuration, claimedOnce.store.routine? "review" = some configuration ∧
        (stillWaiting "check-1" "report-1" 1000).Fits waitingDigest claimedOnce configuration := by
  have claimed : Step waitingDigest board (claimAt "check-1" 1000) claimedOnce :=
    claim_step fun _ held => absurd held not_mem_nil
  have fresh : (stillWaiting "check-1" "report-1" 1000).FreshIds claimedOnce := by
    unfold Call.FreshIds
    decide
  have valid : (waitingRoutine [waitingKey] 1000).isValid = true := by decide
  obtain ⟨configuration,found,criterion,-⟩ :=
    accepted_report_is_storable_iff board_valid (run_single claimed) first_hands_over fresh
  exact ⟨valid,configuration,found,criterion.mp valid⟩

/-- The same waiting answer a minute later repeats its key and is refused. -/
theorem repeated_waiting_is_refused : RoutinesValid board.store ∧
      Run (Step waitingDigest) board
        [claimAt "check-1" 1000, .report noProposal (stillWaiting "check-1" "report-1" 1000),
          claimAt "check-2" 70000] claimedTwice ∧
      (stillWaiting "check-2" "report-2" 70000).FreshIds claimedTwice ∧
      (stillWaiting "check-2" "report-2" 70000).handsOver waitingDigest noProposal claimedTwice =
        .ok (waitingRoutine [waitingKey, waitingKey] 70000) ∧
      (waitingRoutine [waitingKey, waitingKey] 70000).isValid = false ∧
      (stillWaiting "check-2" "report-2" 70000).perform waitingDigest noProposal claimedTwice =
        (some (.store .constraintViolation), claimedTwice) := by
  have claimed : Step waitingDigest board (claimAt "check-1" 1000) claimedOnce :=
    claim_step fun _ held => absurd held not_mem_nil
  have answered : Step waitingDigest claimedOnce
      (.report noProposal (stillWaiting "check-1" "report-1" 1000)) answeredOnce := rfl
  have again : Step waitingDigest answeredOnce (claimAt "check-2" 70000) claimedTwice :=
    claim_step (by decide)
  have fresh : (stillWaiting "check-2" "report-2" 70000).FreshIds claimedTwice := by
    unfold Call.FreshIds
    decide
  have handed : (stillWaiting "check-2" "report-2" 70000).handsOver waitingDigest noProposal
      claimedTwice = .ok (waitingRoutine [waitingKey, waitingKey] 70000) := rfl
  have invalid : (waitingRoutine [waitingKey, waitingKey] 70000).isValid = false := by decide
  exact ⟨board_valid,Run.cons claimed (Run.cons answered (run_single again)),fresh,handed,
    invalid,invalid_is_refused handed invalid⟩

end TermloopReportRuns
