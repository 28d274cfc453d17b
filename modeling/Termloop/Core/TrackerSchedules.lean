import Termloop.Core.TrackerRuntime

/-!
What the recomputation of the schedules leaves. A scheduled Routine keeps the time
it has, or gets one from its cadence; a step gets the time of its next Task. Each
Routine is settled from its own entries alone, so the rounds of the loop do not
disturb one another.
-/
namespace TermloopSchedules
open TermloopKeyed TermloopRecordLists TermloopRoutine TermloopTracker List

structure SameStep (routineId : String) (left right : TrackerRuntimeState) : Prop where
  health : left.health.lookup routineId = right.health.lookup routineId
  runNow : left.stepRunNow.lookup routineId = right.stepRunNow.lookup routineId
  notBefore : ∀ taskId, left.stepTaskNotBefore.lookup (routineId, taskId) =
    right.stepTaskNotBefore.lookup (routineId, taskId)
  nudge : ∀ taskId, left.stepTaskNudge.lookup (routineId, taskId) =
    right.stepTaskNudge.lookup (routineId, taskId)

theorem SameStep.refl (rid : String) (rt : TrackerRuntimeState) : SameStep rid rt rt :=
  ⟨rfl,rfl,fun _ => rfl,fun _ => rfl⟩

theorem SameStep.trans (left : SameStep rid first middle) (right : SameStep rid middle last) :
    SameStep rid first last :=
  ⟨left.health.trans right.health,left.runNow.trans right.runNow,
    fun tid => (left.notBefore tid).trans (right.notBefore tid),
    fun tid => (left.nudge tid).trans (right.nudge tid)⟩

section Local
variable {store : RoutineStore} {rid : String} {left right : TrackerRuntimeState}

variable (same : SameStep rid left right)
include same

theorem SameStep.checked (tid : String) :
    left.stepTaskIsChecked rid tid = right.stepTaskIsChecked rid tid := by
  rw [TrackerRuntimeState.stepTaskIsChecked, TrackerRuntimeState.stepTaskIsChecked, same.health]

theorem SameStep.candidate (playbook : PlaybookConfiguration) :
    stepCandidate left playbook rid = stepCandidate right playbook rid := by
  funext standing
  simp only [stepCandidate, same.checked, TrackerRuntimeState.stepNudge,
    TrackerRuntimeState.stepRetryNotBefore, same.notBefore, same.nudge]

theorem SameStep.assignment :
    playbookStepAssignment store left rid = playbookStepAssignment store right rid := by
  simp only [playbookStepAssignment, TrackerRuntimeState.stepRunNowTaskId, same.runNow,
    same.checked, same.candidate]

theorem SameStep.runNowTime : runNowTime left rid = runNowTime right rid := by
  simp only [TermloopTracker.runNowTime, same.runNow, same.checked]

end Local

theorem assignment_unchecked (next : playbookStepAssignment store rt rid = some step) :
    rt.stepTaskIsChecked rid step.waiting.taskId = false := by
  rw [playbookStepAssignment] at next
  split at next
  next tid named =>
    obtain ⟨playbook,-,standing⟩ := Option.bind_eq_some_iff.mp next
    obtain ⟨standing,found,asked⟩ := Option.bind_eq_some_iff.mp standing
    obtain ⟨asked,-,shape⟩ := Option.map_eq_some_iff.mp asked
    have hit := find?_some found
    have own : standing.task.id = tid := beq_iff_eq.mp hit
    have free := (Option.filter_eq_some_iff.mp named).2
    rw [← shape, PipelineStanding.assignment, own]
    simpa using free
  next =>
    obtain ⟨playbook,-,focused⟩ := Option.bind_eq_some_iff.mp next
    obtain ⟨focused,least,shape⟩ := Option.map_eq_some_iff.mp focused
    obtain ⟨standing,-,other⟩ := mem_filterMap.mp (mem_of_firstLeast least)
    obtain ⟨asked,-,other⟩ := Option.bind_eq_some_iff.mp other
    split at other
    next => cases other
    next free =>
      cases other
      rw [← shape]
      simpa [PipelineStanding.assignment] using free

def stepNextDue (store : RoutineStore) (runtime : TrackerRuntimeState) (routineId : String) :
    Option Nat :=
  (playbookStepDue store runtime routineId).map fun due =>
    match runNowTime runtime routineId with
    | some requestedAt => min requestedAt due
    | none => due

theorem SameStep.nextDue (same : SameStep rid left right) :
    stepNextDue store left rid = stepNextDue store right rid := by
  rw [stepNextDue, stepNextDue, playbookStepDue, playbookStepDue, same.assignment, same.runNowTime]

section Rounds
variable {store : RoutineStore} {rt : TrackerRuntimeState} {routine : TrackerConfiguration}

theorem scheduleRoutine_shape : ∃ nextDue stepRunNow, scheduleRoutine store rt routine =
      { rt with nextDue := nextDue, stepRunNow := stepRunNow } := by
  rw [scheduleRoutine]
  split
  · split
    · exact ⟨_,_,rfl⟩
    · exact ⟨_,_,rfl⟩
  · split
    · exact ⟨_,_,rfl⟩
    · exact ⟨_,_,rfl⟩

theorem scheduleRoutine_other {rid : String} (other : rid ≠ routine.id) :
    SameStep rid (scheduleRoutine store rt routine) rt ∧
      (scheduleRoutine store rt routine).nextDue.lookup rid = rt.nextDue.lookup rid := by
  rw [scheduleRoutine]
  split
  · split
    · exact ⟨SameStep.refl _ _,rfl⟩
    · exact ⟨⟨rfl,rfl,fun _ => rfl,fun _ => rfl⟩,AList.lookup_insert_ne other⟩
  · split
    · exact ⟨⟨rfl,rfl,fun _ => rfl,fun _ => rfl⟩,AList.lookup_insert_ne other⟩
    exact ⟨⟨rfl,AList.lookup_erase_ne other,fun _ => rfl,fun _ => rfl⟩, AList.lookup_erase_ne other⟩

theorem scheduleRoutine_scheduled (scheduled : routine.triggerMode.isScheduled) :
    (scheduleRoutine store rt routine).nextDue.lookup routine.id =
      some ((rt.nextDue.lookup routine.id).getD (routineNextDue routine)) := by
  rw [scheduleRoutine, if_pos scheduled]
  split
  next due hit => rw [hit, Option.getD_some]
  next absent => rw [AList.lookup_insert, absent, Option.getD_none]

theorem scheduleRoutine_step (step : routine.triggerMode.isScheduled = false) :
    (scheduleRoutine store rt routine).nextDue.lookup routine.id = stepNextDue store rt routine.id ∧
      (scheduleRoutine store rt routine).stepRunNow.lookup routine.id =
        (playbookStepDue store rt routine.id).bind fun _ =>
          rt.stepRunNow.lookup routine.id := by
  rw [scheduleRoutine, if_neg (by rw [step]; decide), stepNextDue]
  split
  next due hit =>
    rw [hit]
    exact ⟨AList.lookup_insert _,rfl⟩
  next idle =>
    rw [idle]
    exact ⟨AList.lookup_erase _ _,AList.lookup_erase _ _⟩

theorem rounds_shape (routines : List TrackerConfiguration) :
    ∀ rt : TrackerRuntimeState, ∃ nextDue stepRunNow, routines.foldl (scheduleRoutine store) rt =
        { rt with nextDue := nextDue, stepRunNow := stepRunNow } := by
  induction routines with
  | nil => exact fun rt => ⟨_,_,rfl⟩
  | cons routine rest ih =>
    intro rt
    obtain ⟨nextDue,stepRunNow,first⟩ := scheduleRoutine_shape
    rw [foldl_cons, first]
    exact ih { rt with nextDue := nextDue, stepRunNow := stepRunNow }

theorem rounds_other {routines : List TrackerConfiguration} {rid : String}
    (absent : ∀ routine ∈ routines, rid ≠ routine.id) :
    ∀ rt : TrackerRuntimeState, SameStep rid (routines.foldl (scheduleRoutine store) rt) rt ∧
        (routines.foldl (scheduleRoutine store) rt).nextDue.lookup rid = rt.nextDue.lookup rid := by
  induction routines with
  | nil => exact fun rt => ⟨SameStep.refl _ _,rfl⟩
  | cons routine rest ih =>
    intro rt
    have first := @scheduleRoutine_other store rt routine rid (absent routine mem_cons_self)
    have later := ih (fun other mem => absent other (mem_cons_of_mem _ mem))
      (scheduleRoutine store rt routine)
    exact ⟨later.1.trans first.1,later.2.trans first.2⟩

theorem rounds_own {routines : List TrackerConfiguration}
    (nodup : routines.Pairwise fun a b => b.id ≠ a.id) (mem : routine ∈ routines) :
    ∀ rt : TrackerRuntimeState, ∃ pre : TrackerRuntimeState, (SameStep routine.id pre rt ∧
        pre.nextDue.lookup routine.id = rt.nextDue.lookup routine.id) ∧
      (routines.foldl (scheduleRoutine store) rt).nextDue.lookup routine.id =
        (scheduleRoutine store pre routine).nextDue.lookup routine.id ∧
      (routines.foldl (scheduleRoutine store) rt).stepRunNow.lookup routine.id =
        (scheduleRoutine store pre routine).stepRunNow.lookup routine.id := by
  induction routines with
  | nil => cases mem
  | cons head rest ih =>
    intro rt
    obtain ⟨apart,others⟩ := pairwise_cons.mp nodup
    rcases mem_cons.mp mem with same | later
    · subst same
      have behind := @rounds_other store rest routine.id
        (fun other inRest => (apart other inRest).symm) (scheduleRoutine store rt routine)
      exact ⟨rt,⟨SameStep.refl _ _,rfl⟩,behind.2,behind.1.runNow⟩
    · obtain ⟨pre,same,due,runNow⟩ := ih others later (scheduleRoutine store rt head)
      have first := @scheduleRoutine_other store rt head routine.id (apart routine later)
      exact ⟨pre,⟨same.1.trans first.1,same.2.trans first.2⟩,due,runNow⟩

end Rounds

section Initialize
variable {store : RoutineStore} {rt : TrackerRuntimeState} {routine : TrackerConfiguration}

theorem initialize_shape (store : RoutineStore) (rt : TrackerRuntimeState) :
    ∃ nextDue stepRunNow, initializeRoutineSchedules store rt =
      { rt with nextDue := nextDue, stepRunNow := stepRunNow } := by
  obtain ⟨nextDue,stepRunNow,shape⟩ := @rounds_shape store (enabledRoutines store) { rt with
      nextDue := retain (fun rid _ =>
        (enabledRoutines store).any (·.id == rid)) rt.nextDue }
  exact ⟨nextDue,stepRunNow,shape⟩

@[simp] theorem initialize_health : (initializeRoutineSchedules store rt).health = rt.health := by
  obtain ⟨nextDue,stepRunNow,shape⟩ := initialize_shape store rt
  rw [shape]

@[simp] theorem initialize_pendingStewardWakes :
    (initializeRoutineSchedules store rt).pendingStewardWakes = rt.pendingStewardWakes := by
  obtain ⟨nextDue,stepRunNow,shape⟩ := initialize_shape store rt
  rw [shape]

@[simp] theorem initialize_checks : (initializeRoutineSchedules store rt).checks = rt.checks := by
  rw [TrackerRuntimeState.checks, TrackerRuntimeState.checks, initialize_health]

theorem mem_enabledRoutines : routine ∈ enabledRoutines store ↔
      routine ∈ store.trackerConfigurations ∧ routine.enabled :=
  mem_filter

theorem enabledRoutines_distinct (store : RoutineStore) :
    (enabledRoutines store).Pairwise fun a b => b.id ≠ a.id :=
  store.uniqueRoutines.sublist filter_sublist

variable (mem : routine ∈ enabledRoutines store)
include mem

theorem initialize_round : ∃ pre : TrackerRuntimeState, (SameStep routine.id pre rt ∧
        pre.nextDue.lookup routine.id = rt.nextDue.lookup routine.id) ∧
      (initializeRoutineSchedules store rt).nextDue.lookup routine.id =
        (scheduleRoutine store pre routine).nextDue.lookup routine.id ∧
      (initializeRoutineSchedules store rt).stepRunNow.lookup routine.id =
        (scheduleRoutine store pre routine).stepRunNow.lookup routine.id := by
  obtain ⟨pre,⟨same,due⟩,round⟩ := @rounds_own store routine (enabledRoutines store)
    (enabledRoutines_distinct store) mem
    { rt with
      nextDue := retain (fun rid _ =>
        (enabledRoutines store).any (·.id == rid)) rt.nextDue }
  refine ⟨pre,⟨same.trans ⟨rfl,rfl,fun _ => rfl,fun _ => rfl⟩,due.trans ?_⟩,round⟩
  rw [lookup_retain]
  have kept : ((enabledRoutines store).any (·.id == routine.id)) :=
    any_eq_true.mpr ⟨routine,mem,beq_self_eq_true _⟩
  cases rt.nextDue.lookup routine.id with
  | none => rfl
  | some time => rw [Option.filter_some, if_pos kept]

theorem initialize_scheduled (scheduled : routine.triggerMode.isScheduled) :
    (initializeRoutineSchedules store rt).nextDue.lookup routine.id =
      some ((rt.nextDue.lookup routine.id).getD (routineNextDue routine)) := by
  obtain ⟨pre,⟨-,due⟩,after,-⟩ := @initialize_round store rt routine mem
  rw [after, scheduleRoutine_scheduled scheduled, due]

theorem initialize_step (step : routine.triggerMode.isScheduled = false) :
    (initializeRoutineSchedules store rt).nextDue.lookup routine.id =
        stepNextDue store rt routine.id ∧
      (initializeRoutineSchedules store rt).stepRunNow.lookup routine.id =
        (playbookStepDue store rt routine.id).bind fun _ =>
          rt.stepRunNow.lookup routine.id := by
  obtain ⟨pre,⟨same,-⟩,due,runNow⟩ := @initialize_round store rt routine mem
  obtain ⟨next,kept⟩ := @scheduleRoutine_step store pre routine step
  rw [due, next, same.nextDue, runNow, kept, same.runNow, playbookStepDue, playbookStepDue,
    same.assignment]
  exact ⟨rfl,rfl⟩

end Initialize
end TermloopSchedules
