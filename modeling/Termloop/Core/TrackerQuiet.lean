import Termloop.Core.CheckClaims

/-!
When the supervisor of the Routines may sleep. It advances the deadlines, wakes the
Stewards that have work and claims the steps that are due, and then sleeps until the
next deadline or the next scheduled time. It must not find that time in the past.

The deadlines and the steps are always left in the future. The wakes are not: the
supervisor counts a wake that waits to be delivered again, whether or not its
Project still has work, while admission passes over a Project that has none. Such a
wake stays where it is, and the supervisor does not sleep at all.
-/
namespace TermloopQuiet
open TermloopRuns TermloopRecordLists TermloopSaturating TermloopKeyed TermloopRoutine List
  TermloopTracker TermloopSchedules TermloopClaims
variable {store : RoutineStore} {rt : TrackerRuntimeState} {steward : StewardConfiguration}
  {pid checkId rid : String} {now : Nat} {routine : TrackerConfiguration}
  {step : PlaybookStepAssignment} {core : TrackerCore} {ids : Nat → OpaqueId}

def Later (now : Nat) (time : Option Nat) : Prop := ∀ at_, time = some at_ → now < at_

theorem later_min? {times : List Nat} : Later now times.min? ↔ ∀ time ∈ times, now < time := by
  constructor
  · intro later time mem
    obtain ⟨least,hit⟩ := Option.isSome_iff_exists.mp (isSome_min?_of_mem mem)
    exact Nat.lt_of_lt_of_le (later least hit) ((min?_eq_some_iff.mp hit).2 time mem)
  · intro later least hit
    exact later least (min?_mem hit)

/-- A "Run now" for a Task that is not being checked has that Task to run. -/
def OverridesHaveWork (store : RoutineStore) (runtime : TrackerRuntimeState) : Prop :=
  ∀ routine ∈ enabledRoutines store, routine.triggerMode.isScheduled = false →
    ∀ taskId, runtime.stepRunNowTaskId routine.id = some taskId →
      runtime.stepTaskIsChecked routine.id taskId = false →
      (playbookStepDue store runtime routine.id).isSome = true

theorem initialize_same_of_due (mem : routine ∈ enabledRoutines store)
    (step : routine.triggerMode.isScheduled = false)
    (hit : playbookStepDue store rt routine.id = some due) :
    SameStep routine.id (initializeRoutineSchedules store rt) rt := by
  have kept := (@initialize_step store rt routine mem step).2
  rw [hit, Option.bind_some] at kept
  obtain ⟨nextDue,stepRunNow,shape⟩ := initialize_shape store rt
  rw [shape] at kept ⊢
  exact ⟨rfl,kept,fun _ => rfl,fun _ => rfl⟩

theorem initialize_overrides : OverridesHaveWork store (initializeRoutineSchedules store rt) := by
  intro routine mem step tid named free
  cases hit : playbookStepDue store rt routine.id with
  | none =>
    have dropped := (@initialize_step store rt routine mem step).2
    rw [hit, Option.bind_none] at dropped
    rw [TrackerRuntimeState.stepRunNowTaskId, dropped] at named
    cases named
  | some due =>
    have same := initialize_same_of_due mem step hit
    rw [playbookStepDue, same.assignment, ← playbookStepDue, hit]
    rfl

theorem assignment_of_unnamed (unnamed : ((rt.stepRunNowTaskId rid).filter fun tid =>
      !rt.stepTaskIsChecked rid tid) = none) :
    playbookStepAssignment store rt rid = (store.routinePlaybook rid).bind fun playbook =>
        (firstLeast (fun left right => priorityBefore left.1 right.1)
          ((pipelineStandings store playbook).filterMap
            (stepCandidate rt playbook rid))).map (·.2) := by
  rw [playbookStepAssignment, unnamed]

theorem initialize_still_idle (work : OverridesHaveWork store rt)
    (mem : routine ∈ enabledRoutines store) (step : routine.triggerMode.isScheduled = false)
    (idle : playbookStepDue store rt routine.id = none) :
    playbookStepDue store (initializeRoutineSchedules store rt) routine.id = none := by
  have unnamed : ((rt.stepRunNowTaskId routine.id).filter fun tid =>
      !rt.stepTaskIsChecked routine.id tid) = none := by
    rw [Option.filter_eq_none_iff]
    intro tid named free
    have due := work routine mem step tid named (by simpa using free)
    rw [idle] at due
    cases due
  have dropped := (@initialize_step store rt routine mem step).2
  rw [idle, Option.bind_none] at dropped
  have gone : (((initializeRoutineSchedules store rt).stepRunNowTaskId routine.id).filter
      fun tid => !(initializeRoutineSchedules store rt).stepTaskIsChecked routine.id
        tid) = none := by
    rw [TrackerRuntimeState.stepRunNowTaskId, dropped]
    rfl
  have candidates : ∀ playbook, stepCandidate (initializeRoutineSchedules store rt) playbook
      routine.id = stepCandidate rt playbook routine.id := by
    obtain ⟨nextDue,stepRunNow,shape⟩ := initialize_shape store rt
    rw [shape]
    exact fun playbook => rfl
  rw [playbookStepDue, assignment_of_unnamed unnamed, Option.map_eq_none_iff] at idle
  rw [playbookStepDue, assignment_of_unnamed gone, Option.map_eq_none_iff]
  simp only [candidates]
  exact idle

theorem initialize_nextDue (work : OverridesHaveWork store rt)
    (mem : routine ∈ enabledRoutines store) (step : routine.triggerMode.isScheduled = false) :
    stepNextDue store (initializeRoutineSchedules store rt) routine.id =
      stepNextDue store rt routine.id := by
  cases hit : playbookStepDue store rt routine.id with
  | none =>
    rw [stepNextDue, stepNextDue, initialize_still_idle work mem step hit, hit,
      Option.map_none, Option.map_none]
  | some due => exact (initialize_same_of_due mem step hit).nextDue

theorem assignment_named (next : playbookStepAssignment store rt rid = some step)
    (named : rt.stepRunNowTaskId rid = some tid) (free : rt.stepTaskIsChecked rid tid = false) :
    step.waiting.taskId = tid := by
  have chosen : ((rt.stepRunNowTaskId rid).filter fun tid =>
      !rt.stepTaskIsChecked rid tid) = some tid := by
    rw [named, Option.filter_some, if_pos (by rw [free]; rfl)]
  rw [playbookStepAssignment, chosen] at next
  obtain ⟨playbook,-,standing⟩ := Option.bind_eq_some_iff.mp next
  obtain ⟨standing,found,asked⟩ := Option.bind_eq_some_iff.mp standing
  obtain ⟨asked,-,shape⟩ := Option.map_eq_some_iff.mp asked
  have hit := find?_some found
  rw [← shape]
  exact beq_iff_eq.mp hit

theorem due_step_is_claimable (next : playbookStepAssignment store rt rid = some step)
    (hit : stepNextDue store rt rid = some due) (past : due ≤ now) :
    (!(overridesWait rt rid step.waiting.taskId).1 && decide (now < step.dueAt)) = false := by
  rw [stepNextDue, playbookStepDue, next, Option.map_some, Option.map_some] at hit
  have time := Option.some.inj hit
  cases requested : runNowTime rt rid with
  | none =>
    rw [requested] at time
    dsimp only at time
    have waits : ¬ now < step.dueAt := by omega
    simp [waits]
  | some requestedAt =>
    obtain ⟨runNow,open_,-⟩ := Option.map_eq_some_iff.mp requested
    obtain ⟨entry,free⟩ := Option.filter_eq_some_iff.mp open_
    have lifts : (overridesWait rt rid step.waiting.taskId).1 := by
      rw [overridesWait, entry]
      dsimp only
      cases named : runNow.taskId with
      | none => rfl
      | some tid =>
        rw [named] at free
        have unchecked : rt.stepTaskIsChecked rid tid = false := by simpa using free
        have mine : rt.stepRunNowTaskId rid = some tid := by
          rw [TrackerRuntimeState.stepRunNowTaskId, entry, Option.bind_some, named]
        exact beq_iff_eq.mpr (assignment_named next mine unchecked).symm
    simp [lifts]

theorem claimFirstStep_none
    (ran : claimFirstStep store rt steward pid checkId now routines = none) :
    ∀ routine ∈ routines, ∀ step, playbookStepAssignment store rt routine.id = some step →
      (!(overridesWait rt routine.id step.waiting.taskId).1 && decide (now < step.dueAt)) =
        true := by
  induction routines with
  | nil => exact fun routine mem => absurd mem not_mem_nil
  | cons head rest ih =>
    rw [claimFirstStep] at ran
    intro routine mem step next
    split at ran
    next idle =>
      rcases mem_cons.mp mem with same | later
      · rw [same, idle] at next
        cases next
      · exact ih ran routine later step next
    next first asked =>
      dsimp only at ran
      split at ran
      next waits =>
        rcases mem_cons.mp mem with same | later
        · rw [same, asked] at next
          cases next
          rw [same]
          exact waits
        · exact ih ran routine later step next
      next => cases ran

theorem mem_dueStepRoutines : routine ∈ dueStepRoutines store rt pid now ↔
      routine ∈ enabledRoutines store ∧ routine.triggerMode.isScheduled = false ∧
        routine.projectId = pid ∧
        ∃ due, rt.nextDue.lookup routine.id = some due ∧ due ≤ now := by
  rw [dueStepRoutines, mem_map]
  constructor
  · rintro ⟨entry,sorted,own⟩
    rw [mem_insertionSort] at sorted
    obtain ⟨mem,stored,due⟩ := mem_filterMap.mp sorted
    rw [dueStep] at due
    split at due
    next asked =>
      obtain ⟨time,hit,due⟩ := Option.bind_eq_some_iff.mp due
      split at due
      next past =>
        cases due
        subst own
        simp only [Bool.and_eq_true, beq_iff_eq, Bool.not_eq_true'] at asked
        exact ⟨mem_enabledRoutines.mpr ⟨stored,asked.1.1⟩,asked.2,asked.1.2,time,hit,past⟩
      next => cases due
    next => cases due
  · rintro ⟨mem,step,project,due,hit,past⟩
    obtain ⟨stored,enabled⟩ := mem_enabledRoutines.mp mem
    refine ⟨(!(rt.stepRunNow.lookup routine.id).isSome, due, routine),?_,rfl⟩
    rw [mem_insertionSort]
    refine mem_filterMap.mpr ⟨routine,stored,?_⟩
    have asked : (routine.enabled && routine.projectId == pid
        && !routine.triggerMode.isScheduled) := by
      simp [enabled, project, step]
    rw [dueStep, if_pos asked, hit, Option.bind_some, if_pos past]

theorem overridesWait_shape : ∃ stepRunNow, (overridesWait rt rid tid).2 =
        { rt with stepRunNow := stepRunNow } ∧
      (∀ other, other ≠ rid →
        stepRunNow.lookup other = rt.stepRunNow.lookup other) ∧
      ∀ runNow, stepRunNow.lookup rid = some runNow →
        runNow.taskId = some tid ∨ rt.stepRunNow.lookup rid = some runNow := by
  rw [overridesWait]
  split
  next => exact ⟨_,rfl,fun _ _ => rfl,fun _ hit => .inr hit⟩
  next runNow entry =>
    split
    next =>
      refine ⟨_,rfl,fun other apart => AList.lookup_insert_ne apart,fun saved hit => ?_⟩
      rw [AList.lookup_insert] at hit
      cases hit
      exact .inl rfl
    next => exact ⟨_,rfl,fun _ _ => rfl,fun _ hit => .inr hit⟩

theorem claimedStep_other (other : rid ≠ routine.id) :
    SameStep rid (claimedStep steward pid checkId now rt routine step) rt := by
  obtain ⟨stepRunNow,shape,kept,-⟩ := overridesWait_shape
  rw [claimedStep, shape]
  refine ⟨AList.lookup_insert_ne other,kept rid other,fun _ => rfl,fun tid => ?_⟩
  exact AList.lookup_erase_ne fun same => other (congrArg Prod.fst same)

theorem claimedStep_checked (checked : tid = step.waiting.taskId ∨
      rt.stepTaskIsChecked routine.id tid) :
    (claimedStep steward pid checkId now rt routine step).stepTaskIsChecked routine.id tid := by
  obtain ⟨stepRunNow,shape,-⟩ := overridesWait_shape
  rw [claimedStep, shape, TrackerRuntimeState.stepTaskIsChecked]
  dsimp only [holdRoutineCheck]
  rw [AList.lookup_insert, Option.any_some, TrackerHealth.checksTask, any_append, Bool.or_eq_true]
  rcases checked with mine | pre
  · right
    simp [newCheck, mine]
  left
  rw [TrackerRuntimeState.stepTaskIsChecked] at pre
  cases hit : rt.health.lookup routine.id with
  | none =>
    rw [hit] at pre
    cases pre
  | some health =>
    rw [hit, Option.any_some, TrackerHealth.checksTask] at pre
    exact pre

theorem claimedStep_overrides (work : OverridesHaveWork store rt)
    (next : playbookStepAssignment store rt routine.id = some step) :
    OverridesHaveWork store (claimedStep steward pid checkId now rt routine step) := by
  intro other mem onDemand tid named free
  by_cases same : other.id = routine.id
  · -- The override of the claimed Routine is for a Task that is being checked.
    exfalso
    rw [same] at named free
    obtain ⟨stepRunNow,shape,-,saved⟩ :=
      overridesWait_shape
    have entry : stepRunNow.lookup routine.id =
        (claimedStep steward pid checkId now rt routine step).stepRunNow.lookup routine.id := by
      rw [claimedStep, shape]
      rfl
    obtain ⟨runNow,hit,own⟩ := Option.bind_eq_some_iff.mp named
    have checked : tid = step.waiting.taskId ∨ rt.stepTaskIsChecked routine.id tid := by
      rcases saved runNow (entry.trans hit) with mine | pre
      · exact .inl (Option.some.inj (own.symm.trans mine))
      by_cases unchecked : rt.stepTaskIsChecked routine.id tid
      · exact .inr unchecked
      · have mine : rt.stepRunNowTaskId routine.id = some tid := by
          rw [TrackerRuntimeState.stepRunNowTaskId, pre, Option.bind_some, own]
        exact .inl (assignment_named next mine (by simpa using unchecked)).symm
    rw [claimedStep_checked checked] at free
    cases free
  · have entries := @claimedStep_other rt steward pid checkId other.id now routine step same
    rw [TrackerRuntimeState.stepRunNowTaskId, entries.runNow] at named
    rw [entries.checked] at free
    have due := work other mem onDemand tid named free
    rwa [playbookStepDue, entries.assignment]

def checkTime (check : ActiveTrackerCheck) : Nat :=
  if check.pingSent then saturatingAdd check.deadline overduePingGraceMs else check.deadline

structure OnlySteps (store : RoutineStore) (now : Nat) (base runtime : TrackerRuntimeState) :
    Prop where
  pending : runtime.pendingStewardWakes = base.pendingStewardWakes
  scheduled : ∀ routine ∈ enabledRoutines store, routine.triggerMode.isScheduled = true →
    ∀ due, base.nextDue.lookup routine.id = some due →
      runtime.nextDue.lookup routine.id = some due
  busy : ∀ projectId, runtime.busyProjectIds.contains projectId =
    base.busyProjectIds.contains projectId
  deadlines : (∀ held ∈ base.checks, now < checkTime held.2) →
    ∀ held ∈ runtime.checks, now < checkTime held.2

theorem OnlySteps.refl : OnlySteps store now rt rt :=
  ⟨rfl,fun _ _ _ _ hit => hit,fun _ => rfl,fun fine => fine⟩

theorem OnlySteps.trans (first : OnlySteps store now base middle)
    (second : OnlySteps store now middle rt) : OnlySteps store now base rt :=
  ⟨second.pending.trans first.pending, fun routine mem scheduled due hit =>
      second.scheduled routine mem scheduled due (first.scheduled routine mem scheduled due hit),
    fun pid => (second.busy pid).trans (first.busy pid),
    fun fine => second.deadlines (first.deadlines fine)⟩

theorem onlySteps_rescheduled : OnlySteps store now rt (initializeRoutineSchedules store rt) := by
  refine ⟨initialize_pendingStewardWakes,?_,?_,?_⟩
  · intro routine mem scheduled due hit
    rw [initialize_scheduled mem scheduled, hit, Option.getD_some]
  · intro pid
    rw [TrackerRuntimeState.busyProjectIds, initialize_checks]
    rfl
  · intro fine
    rw [initialize_checks]
    exact fine

theorem onlySteps_claimed (early : now + 60000 < u64Max) :
    OnlySteps store now rt (claimedStep steward pid checkId now rt routine step) := by
  have held := @claimedStep_checks rt steward pid now checkId routine step
  obtain ⟨stepRunNow,shape,-⟩ := overridesWait_shape
  have pending : (claimedStep steward pid checkId now rt routine step).pendingStewardWakes =
      rt.pendingStewardWakes := by
    rw [claimedStep, shape]
    rfl
  refine ⟨pending,?_,?_,?_⟩
  · intro other mem scheduled due hit
    rw [claimedStep, shape]
    exact hit
  · intro project
    have same := (held.filter (·.2.stepTaskId.isNone)).map (·.2.projectId)
    exact same.contains_eq
  · intro fine check mem
    rcases mem_cons.mp (held.subset mem) with new | old
    · subst new
      simp only [checkTime, newCheck, stepCapability, saturatingAdd, checkDeadlineMaxMs,
        Bool.false_eq_true, if_false]
      omega
    · exact fine check old

/-- The step slots of a Project are full, or none of its steps is due. -/
def StepsQuiet (store : RoutineStore) (now : Nat) (runtime : TrackerRuntimeState)
    (projectId : String) : Prop :=
  projectStepChecksMax ≤ runtime.projectStepCheckCount projectId ∨
    ∀ routine ∈ enabledRoutines store, routine.triggerMode.isScheduled = false →
      routine.projectId = projectId → Later now (stepNextDue store runtime routine.id)

theorem initialize_count : (initializeRoutineSchedules store rt).projectStepCheckCount pid =
      rt.projectStepCheckCount pid := by
  rw [TrackerRuntimeState.projectStepCheckCount, initialize_checks]
  rfl

theorem claimedStep_count :
    (claimedStep steward pid checkId now rt routine step).projectStepCheckCount other =
      rt.projectStepCheckCount other + if pid = other then 1 else 0 := by
  have held := @claimedStep_checks rt steward pid now checkId routine step
  rw [TrackerRuntimeState.projectStepCheckCount, held.countP_eq, countP_cons]
  simp [newCheck, stepCapability, TrackerRuntimeState.projectStepCheckCount]

theorem stepsQuiet_rescheduled (work : OverridesHaveWork store rt)
    (quiet : StepsQuiet store now rt pid) :
    StepsQuiet store now (initializeRoutineSchedules store rt) pid := by
  rcases quiet with full | later
  · left
    rw [initialize_count]
    exact full
  · right
    intro routine mem onDemand project
    rw [initialize_nextDue work mem onDemand]
    exact later routine mem onDemand project

theorem stepsQuiet_claimed (apart : other ≠ pid)
    (stored : routine ∈ enabledRoutines store) (mine : routine.projectId = pid)
    (quiet : StepsQuiet store now rt other) :
    StepsQuiet store now (claimedStep steward pid checkId now rt routine step) other := by
  rcases quiet with full | later
  · left
    rw [claimedStep_count]
    exact Nat.le_add_right_of_le full
  right
  intro theirs mem onDemand project
  have different : theirs.id ≠ routine.id := by
    intro same
    have equal := eq_of_key (enabledRoutines_distinct store) mem stored same
    rw [equal, mine] at project
    exact apart project.symm
  have entries := @claimedStep_other rt steward pid checkId theirs.id now routine step different
  rw [entries.nextDue]
  exact later theirs mem onDemand project

theorem stepsQuiet_nothing (work : OverridesHaveWork store rt)
    (none : claimFirstStep store (initializeRoutineSchedules store rt) steward pid
      checkId now (dueStepRoutines store (initializeRoutineSchedules store rt) pid now) = none) :
    StepsQuiet store now (initializeRoutineSchedules store rt) pid := by
  right
  intro routine mem onDemand project due hit
  by_contra past
  have time : (initializeRoutineSchedules store rt).nextDue.lookup routine.id = some due := by
    rw [(initialize_step mem onDemand).1, ← initialize_nextDue work mem onDemand]
    exact hit
  have ready : routine ∈ dueStepRoutines store (initializeRoutineSchedules store rt) pid now :=
    mem_dueStepRoutines.mpr ⟨mem,onDemand,project,due,time,Nat.le_of_not_lt past⟩
  obtain ⟨due',assigned,-⟩ := Option.map_eq_some_iff.mp hit
  obtain ⟨step,next,-⟩ := Option.map_eq_some_iff.mp assigned
  have waits := claimFirstStep_none none routine ready step next
  rw [due_step_is_claimable next hit (Nat.le_of_not_lt past)] at waits
  cases waits

structure Drained (store : RoutineStore) (now : Nat) (projects : List String)
    (before after : TrackerRuntimeState) : Prop where
  only : OnlySteps store now before after
  work : OverridesHaveWork store after
  quiet : ∀ projectId ∈ projects, StepsQuiet store now after projectId
  others : ∀ projectId, projectId ∉ projects → StepsQuiet store now before projectId →
    StepsQuiet store now after projectId

theorem drained_nothing (work : OverridesHaveWork store rt)
    (quiet : StepsQuiet store now (initializeRoutineSchedules store rt) pid) :
    Drained store now [pid] rt (initializeRoutineSchedules store rt) := by
  refine ⟨onlySteps_rescheduled,initialize_overrides,forall_mem_singleton.mpr quiet,?_⟩
  intro other apart still
  exact stepsQuiet_rescheduled work still

theorem claimSteps_drained (early : now + 60000 < u64Max)
    (automated : store.playbookSteward pid ≠ none) (fuel : Nat) :
    ∀ claimed : List StewardRoutineClaim × TrackerRuntimeState, OverridesHaveWork store claimed.2 →
      projectStepChecksMax < claimed.2.projectStepCheckCount pid + fuel →
      Drained store now [pid] claimed.2 (claimSteps store ids pid now fuel claimed).2 := by
  induction fuel with
  | zero =>
    intro claimed work slots
    exact ⟨.refl,work,forall_mem_singleton.mpr (.inl (Nat.le_of_lt slots)), fun _ _ quiet => quiet⟩
  | succ fuel ih =>
    intro claimed work slots
    have claims := @claimStep_claims claimed.2 store pid now (ids claimed.1.length).text
    rw [claimSteps]
    generalize claimNextPlaybookStep store claimed.2 pid (ids claimed.1.length).text now =
      outcome at claims ⊢
    cases claims with
    | refused why =>
      rcases why with invalid | absent
      · rw [(ids claimed.1.length).usable] at invalid
        cases invalid
      · exact absurd absent automated
    | full slots =>
      apply drained_nothing work
      left
      rw [initialize_count]
      exact slots
    | nothing steward none => exact drained_nothing work (stepsQuiet_nothing work none)
    | claimed steward claim routine step room due next =>
      obtain ⟨stored,-,mine,-⟩ := mem_dueStepRoutines.mp due
      have rest := ih (claimed.1 ++ [claim], claimedStep steward pid
        (ids claimed.1.length).text now (initializeRoutineSchedules store claimed.2) routine step)
        (claimedStep_overrides initialize_overrides next) (by
          rw [claimedStep_count, initialize_count, if_pos rfl]
          omega)
      refine ⟨?_,rest.work,rest.quiet,fun other apart quiet => ?_⟩
      · exact (onlySteps_rescheduled.trans (onlySteps_claimed early)).trans rest.only
      · apply rest.others other apart
        exact stepsQuiet_claimed (fun same => apart (mem_singleton.mpr same)) stored mine
          (stepsQuiet_rescheduled work quiet)

theorem admitSteps_drained (early : now + 60000 < u64Max)
    (automated : ∀ pid ∈ projects, store.playbookSteward pid ≠ none) :
    ∀ claimed : List StewardRoutineClaim × TrackerRuntimeState, OverridesHaveWork store claimed.2 →
      Drained store now projects claimed.2 (projects.foldl (fun claimed pid =>
          claimSteps store ids pid now (projectStepChecksMax + 1) claimed) claimed).2 := by
  induction projects with
  | nil =>
    intro claimed work
    exact ⟨.refl,work,fun _ mem => absurd mem not_mem_nil,fun _ _ quiet => quiet⟩
  | cons pid rest ih =>
    intro claimed work
    have first := @claimSteps_drained _ _ _ ids early (automated pid mem_cons_self)
      (projectStepChecksMax + 1) claimed work (by omega)
    have later := ih (fun other mem => automated other (mem_cons_of_mem _ mem))
      (claimSteps store ids pid now (projectStepChecksMax + 1) claimed) first.work
    rw [foldl_cons]
    refine ⟨first.only.trans later.only,later.work,fun mine mem => ?_, fun other apart quiet => ?_⟩
    · by_cases again : mine ∈ rest
      · exact later.quiet mine again
      · have here : mine ∈ [pid] :=
          mem_singleton.mpr ((mem_cons.mp mem).resolve_right again)
        exact later.others mine again (first.quiet mine here)
    · rw [mem_cons, not_or] at apart
      exact later.others other apart.2
        (first.others other (fun same => apart.1 (mem_singleton.mp same)) quiet)

theorem advance_pending : (advanceTrackerDeadlines rt now).2.pendingStewardWakes = rt.pendingStewardWakes := by
  dsimp only [advanceTrackerDeadlines]
  obtain ⟨nextDue,stepTaskNotBefore,shape⟩ := postponeExpired_shape
    (saturatingAdd now checkTimeoutRetryMs) (expiredChecks rt now)
    { rt with health := mapValues (fun _ health => health.advance now) rt.health }
  rw [shape]

theorem advance_deadlines :
    ∀ held ∈ (advanceTrackerDeadlines rt now).2.checks, now < checkTime held.2 := by
  intro held mem
  obtain ⟨health,hit,inside⟩ := mem_checks.mp mem
  rw [advance_health, lookup_mapValues] at hit
  obtain ⟨pre,-,shape⟩ := Option.map_eq_some_iff.mp hit
  subst shape
  obtain ⟨marked,kept⟩ := mem_filter.mp inside
  obtain ⟨check,-,pinged⟩ := mem_map.mp marked
  rw [checkTime]
  split
  next sent =>
    rw [ActiveTrackerCheck.overdue, sent, Bool.true_and] at kept
    simpa using kept
  next unsent =>
    rw [← pinged] at unsent ⊢
    simp only [ActiveTrackerCheck.pinged, Bool.or_eq_true, not_or, decide_eq_true_eq] at unsent
    exact Nat.lt_of_not_le unsent.2

theorem later_deadline (fine : ∀ held ∈ rt.checks, now < checkTime held.2) :
    Later now (nextTrackerDeadline rt) := by
  rw [nextTrackerDeadline, later_min?]
  intro time mem
  obtain ⟨held,inside,shape⟩ := mem_map.mp mem
  rw [← shape]
  exact fine held inside

/-- The Project has a wake that is to be delivered again, later than now. -/
def FreshWake (now : Nat) (pending : AList fun _ : String => PendingStewardWake)
    (projectId : String) : Prop :=
  ∃ wake, pending.lookup projectId = some wake ∧ now < wake.retryAt

/-- A Project without due work keeps its pending wake; one whose free Steward has work has a
    fresh wake. -/
structure Woken (core : TrackerCore) (busy : List String) (now : Nat)
    (stewards : List StewardConfiguration)
    (before after : AList fun _ : String => PendingStewardWake) : Prop where
  idle : ∀ projectId, core.hasDueAssignment projectId now = false →
    after.lookup projectId = before.lookup projectId
  keeps : ∀ projectId, FreshWake now before projectId → FreshWake now after projectId
  woken : ∀ steward ∈ stewards, ∀ sessionId, steward.executorSessionId = some sessionId →
    busy.contains steward.projectId = false → core.sessionTurnIsRunning sessionId = false →
    core.hasDueAssignment steward.projectId now = true → FreshWake now after steward.projectId

section Wakes
variable {busy : List String}

theorem woken_insert (later : now < wake.retryAt)
    (due : core.hasDueAssignment steward.projectId now) :
    Woken core busy now [steward] pre (pre.insert steward.projectId wake) := by
  refine ⟨fun pid idle => ?_,fun pid fresh => ?_,?_⟩
  · have apart : pid ≠ steward.projectId := by
      intro same
      rw [same, due] at idle
      cases idle
    rw [AList.lookup_insert_ne apart]
  · by_cases same : pid = steward.projectId
    · exact ⟨wake,by rw [same, AList.lookup_insert],later⟩
    · obtain ⟨old,hit,still⟩ := fresh
      exact ⟨old,by rw [AList.lookup_insert_ne same, hit],still⟩
  · intro mine mem sid _ _ _ _
    rw [mem_singleton.mp mem]
    exact ⟨wake,AList.lookup_insert _,later⟩

theorem admitStewardWake_woken (early : now + 60000 < u64Max)
    (pending : AList fun _ : String => PendingStewardWake) (wakes : List DueStewardWake)
    (steward : StewardConfiguration) :
    ∃ wakes' pending', { core with
        runtime := { core.runtime with pendingStewardWakes := pending } }.admitStewardWake busy now
          wakes steward = (wakes', { core.runtime with pendingStewardWakes := pending' }) ∧
      Woken core busy now [steward] pending pending' := by
  have stays : (∀ sid, steward.executorSessionId = some sid →
      busy.contains steward.projectId = false → core.sessionTurnIsRunning sid = false →
      core.hasDueAssignment steward.projectId now →
      FreshWake now pending steward.projectId) → Woken core busy now [steward] pending pending := by
    intro fresh
    exact ⟨fun _ _ => rfl,fun _ still => still,forall_mem_singleton.mpr fresh⟩
  rw [TrackerCore.admitStewardWake]
  split
  next absent =>
    refine ⟨wakes,pending,rfl,stays ?_⟩
    intro sid sess
    rw [absent] at sess
    cases sess
  next sid sess =>
    split
    next passed =>
      refine ⟨wakes,pending,rfl,stays ?_⟩
      intro own same free quiet due
      rw [sess] at same
      cases same
      have asked : (busy.contains steward.projectId || !core.hasDueAssignment steward.projectId now
          || core.sessionTurnIsRunning sid) := passed
      rw [free, quiet, due] at asked
      cases asked
    next taken =>
      have due : core.hasDueAssignment steward.projectId now := by
        by_contra idle
        apply taken
        have none : core.hasDueAssignment steward.projectId now = false := by simpa using idle
        have asked : (busy.contains steward.projectId
            || !core.hasDueAssignment steward.projectId now
            || core.sessionTurnIsRunning sid) := by
          rw [none]
          simp
        exact asked
      split
      next waits =>
        refine ⟨wakes,pending,rfl,stays ?_⟩
        intro own same free quiet _
        dsimp only at waits
        cases hit : pending.lookup steward.projectId with
        | none =>
          rw [hit] at waits
          cases waits
        | some wake =>
          rw [hit, Option.any_some, Bool.and_eq_true, decide_eq_true_eq] at waits
          exact ⟨wake,hit,waits.2⟩
      next =>
        have later : now < saturatingAdd now wakeRedeliveryMs := by
          simp only [saturatingAdd, wakeRedeliveryMs]
          omega
        exact ⟨_,_,rfl,woken_insert later due⟩

theorem admitted_woken (early : now + 60000 < u64Max) (stewards : List StewardConfiguration) :
    ∀ (wakes : List DueStewardWake) (pending : AList fun _ : String => PendingStewardWake),
      ∃ wakes' pending', stewards.foldl (fun admitted steward =>
          { core with runtime := admitted.2 }.admitStewardWake busy now admitted.1 steward)
          (wakes, { core.runtime with pendingStewardWakes := pending }) =
            (wakes', { core.runtime with pendingStewardWakes := pending' }) ∧
        Woken core busy now stewards pending pending' := by
  induction stewards with
  | nil =>
    intro wakes pending
    exact ⟨wakes,pending,rfl,fun _ _ => rfl,fun _ still => still,
      fun _ mem => absurd mem not_mem_nil⟩
  | cons steward rest ih =>
    intro wakes pending
    obtain ⟨wakes₁,pending₁,round,first⟩ :=
      @admitStewardWake_woken now core busy early pending wakes steward
    obtain ⟨wakes₂,pending₂,rounds,later⟩ := ih wakes₁ pending₁
    refine ⟨wakes₂,pending₂,by rw [foldl_cons, round, rounds],?_,?_,?_⟩
    · intro pid idle
      rw [later.idle pid idle, first.idle pid idle]
    · exact fun pid fresh => later.keeps pid (first.keeps pid fresh)
    · intro mine mem sid sess free quiet due
      rcases mem_cons.mp mem with here | behind
      · rw [here] at sess free due ⊢
        exact later.keeps _ (first.woken steward mem_cons_self sid sess free quiet due)
      · exact later.woken mine behind sid sess free quiet due

end Wakes

def supervise (core : TrackerCore) (ids : Nat → OpaqueId) (now : Nat) : TrackerCore :=
  let advanced := { core with runtime := (advanceTrackerDeadlines core.runtime now).2 }
  let woken := { advanced with runtime := (advanced.admitDueStewardWakes now).2 }
  { woken with runtime := (admitDuePlaybookSteps woken.store woken.runtime ids now).2 }

def Quiet (core : TrackerCore) (now : Nat) : Prop :=
  Later now (nextTrackerDeadline core.runtime) ∧ Later now core.nextTrackerSchedule.1

def settled (core : TrackerCore) (now : Nat) : TrackerCore :=
  { core with
    runtime := initializeRoutineSchedules core.store (advanceTrackerDeadlines core.runtime now).2 }

/-- A wake to be redelivered by now to a free Steward has a due scheduled Routine behind it.
    -/
def WakesHaveWork (core : TrackerCore) (now : Nat) : Prop :=
  ∀ steward ∈ TrackerCore.enabledStewards core.store, ∀ sessionId,
    steward.executorSessionId = some sessionId →
    (settled core now).runtime.busyProjectIds.contains steward.projectId = false →
    core.sessionTurnIsRunning sessionId = false →
    ∀ wake, core.runtime.pendingStewardWakes.lookup steward.projectId = some wake →
      wake.retryAt ≤ now → (settled core now).hasDueAssignment steward.projectId now = true

def rescheduled (core : TrackerCore) : TrackerCore :=
  { core with runtime := initializeRoutineSchedules core.store core.runtime }

theorem later_schedule : Later now core.nextTrackerSchedule.1 ↔
      Later now (rescheduled core).nextPlaybookStep ∧
        Later now (rescheduled core).nextStewardWake := by
  dsimp only [TrackerCore.nextTrackerSchedule, rescheduled]
  generalize TrackerCore.nextPlaybookStep _ = steps
  generalize TrackerCore.nextStewardWake _ = stewards
  cases steps with
  | none => simp [Later]
  | some left =>
    cases stewards with
    | none => simp [Later]
    | some right => simp [Later]

theorem automated_of_enabled (mem : steward ∈ TrackerCore.enabledStewards store) :
    store.playbookSteward steward.projectId ≠ none := by
  obtain ⟨stored,enabled⟩ := mem_filter.mp mem
  intro absent
  have refused := find?_eq_none.mp absent steward stored
  simp [enabled] at refused

theorem supervise_leaves (early : now + 60000 < u64Max) :
    ∃ pending, Woken (settled core now) (settled core now).runtime.busyProjectIds now
        (TrackerCore.enabledStewards core.store) core.runtime.pendingStewardWakes pending ∧
      Drained core.store now ((TrackerCore.enabledStewards core.store).map (·.projectId))
        { (settled core now).runtime with pendingStewardWakes := pending }
        (supervise core ids now).runtime := by
  have same : (settled core now).runtime.pendingStewardWakes =
      core.runtime.pendingStewardWakes := by
    rw [settled, initialize_pendingStewardWakes, advance_pending]
  obtain ⟨wakes,pending,rounds,woken⟩ := @admitted_woken now (settled core now)
    (settled core now).runtime.busyProjectIds early (TrackerCore.enabledStewards core.store) []
    (settled core now).runtime.pendingStewardWakes
  have admitted : (TrackerCore.admitDueStewardWakes { core with
      runtime := (advanceTrackerDeadlines core.runtime now).2 } now).2 =
        { (settled core now).runtime with pendingStewardWakes := pending } :=
    congrArg Prod.snd rounds
  have work : OverridesHaveWork core.store
      { (settled core now).runtime with pendingStewardWakes := pending } :=
    @initialize_overrides core.store (advanceTrackerDeadlines core.runtime now).2
  refine ⟨pending,same ▸ woken,?_⟩
  rw [supervise]
  dsimp only
  rw [admitted, admitDuePlaybookSteps]
  apply admitSteps_drained early _ ([], _) work
  intro pid mem
  obtain ⟨steward,enabled,own⟩ := mem_map.mp mem
  rw [← own]
  exact automated_of_enabled enabled

theorem supervise_deadlines (early : now + 60000 < u64Max) :
    Later now (nextTrackerDeadline (supervise core ids now).runtime) := by
  obtain ⟨pending,-,drained⟩ := @supervise_leaves _ core ids early
  apply later_deadline
  apply drained.only.deadlines
  have base := @advance_deadlines core.runtime now
  rw [← @initialize_checks core.store] at base
  exact base

theorem supervise_steps (early : now + 60000 < u64Max) :
    Later now (rescheduled (supervise core ids now)).nextPlaybookStep := by
  obtain ⟨pending,-,drained⟩ := @supervise_leaves _ core ids early
  rw [TrackerCore.nextPlaybookStep, later_min?]
  intro time mem
  obtain ⟨routine,stored,found⟩ := mem_filterMap.mp mem
  split at found
  next counted =>
    simp only [Bool.and_eq_true, Bool.not_eq_true', decide_eq_true_eq] at counted
    obtain ⟨⟨⟨enabled,onDemand⟩,automated⟩,room⟩ := counted
    have mem : routine ∈ enabledRoutines core.store := mem_enabledRoutines.mpr ⟨stored,enabled⟩
    obtain ⟨steward,here⟩ := Option.isSome_iff_exists.mp automated
    have hit := find?_some here
    simp only [Bool.and_eq_true, beq_iff_eq] at hit
    have mine : steward ∈ TrackerCore.enabledStewards core.store :=
      mem_filter.mpr ⟨mem_of_find?_eq_some here,hit.2⟩
    have quiet := drained.quiet routine.projectId (mem_map.mpr ⟨steward,mine,hit.1⟩)
    rw [rescheduled, initialize_count] at room
    rcases quiet with full | later
    · omega
    · apply later routine mem onDemand rfl
      rw [← (initialize_step mem onDemand).1]
      exact found
  next => cases found

theorem scheduled_time {after : TrackerRuntimeState}
    (only : OnlySteps core.store now { (settled core now).runtime with pendingStewardWakes :=
      pending } after) (stored : routine ∈ core.store.scheduledRoutines pid)
    (hit : (initializeRoutineSchedules core.store after).nextDue.lookup routine.id = some time) :
    (settled core now).runtime.nextDue.lookup routine.id = some time := by
  obtain ⟨mem,asked⟩ := mem_filter.mp stored
  simp only [Bool.and_eq_true] at asked
  obtain ⟨⟨enabled,-⟩,scheduled⟩ := asked
  have mine : routine ∈ enabledRoutines core.store := mem_enabledRoutines.mpr ⟨mem,enabled⟩
  have base : (settled core now).runtime.nextDue.lookup routine.id = some
      (((advanceTrackerDeadlines core.runtime now).2.nextDue.lookup routine.id).getD
        (routineNextDue routine)) := initialize_scheduled mine scheduled
  have kept := (only.trans onlySteps_rescheduled).scheduled routine mine scheduled _ base
  rw [base, ← kept, hit]

theorem supervise_wakes (early : now + 60000 < u64Max) :
    Later now (rescheduled (supervise core ids now)).nextStewardWake ↔ WakesHaveWork core now := by
  obtain ⟨pending,woken,drained⟩ := @supervise_leaves _ core ids early
  have only := drained.only.trans onlySteps_rescheduled
  have wakes : (rescheduled (supervise core ids now)).runtime.pendingStewardWakes = pending :=
    only.pending
  have busy : ∀ pid, (rescheduled (supervise core ids now)).runtime.busyProjectIds.contains pid =
        (settled core now).runtime.busyProjectIds.contains pid := only.busy
  rw [TrackerCore.nextStewardWake, later_min?]
  constructor
  · intro later steward mem sid sess free quiet wake waiting past
    by_contra idle
    have unchanged := woken.idle steward.projectId (by simpa using idle)
    have time : (rescheduled (supervise core ids now)).stewardWakeTime
        (rescheduled (supervise core ids now)).runtime.busyProjectIds steward =
          some wake.retryAt := by
      rw [TrackerCore.stewardWakeTime, sess, Option.bind_some, busy, free]
      have running : (rescheduled (supervise core ids now)).sessionTurnIsRunning sid =
          false := quiet
      rw [running]
      rw [wakes, unchanged, waiting]
      rfl
    have soon := later wake.retryAt (mem_filterMap.mpr ⟨steward,mem,time⟩)
    omega
  · intro work time mem
    obtain ⟨steward,enabled,hit⟩ := mem_filterMap.mp mem
    obtain ⟨sid,sess,hit⟩ := Option.bind_eq_some_iff.mp hit
    split at hit
    next => cases hit
    next unblocked =>
      rw [busy, Bool.or_eq_true, not_or, Bool.not_eq_true, Bool.not_eq_true] at unblocked
      obtain ⟨free,running⟩ := unblocked
      have quiet : core.sessionTurnIsRunning sid = false := running
      have fresh := woken.woken steward enabled sid sess free quiet
      rw [wakes] at hit
      cases waiting : pending.lookup steward.projectId with
      | some wake =>
        rw [waiting] at hit
        cases hit
        by_contra past
        by_cases due : (settled core now).hasDueAssignment steward.projectId now
        · obtain ⟨other,same,still⟩ := fresh due
          rw [waiting] at same
          cases same
          exact past still
        · have unchanged := woken.idle steward.projectId (by simpa using due)
          rw [waiting] at unchanged
          exact due (work steward enabled sid sess free quiet wake unchanged.symm
            (Nat.le_of_not_lt past))
      | none =>
        rw [waiting] at hit
        obtain ⟨routine,stored,entry⟩ := mem_filterMap.mp (min?_mem hit)
        by_contra past
        have seen := scheduled_time drained.only stored entry
        have due : (settled core now).hasDueAssignment steward.projectId now := by
          apply any_eq_true.mpr
          refine ⟨routine,stored,?_⟩
          rw [seen, Option.any_some, decide_eq_true_eq]
          exact Nat.le_of_not_lt past
        obtain ⟨wake,there,-⟩ := fresh due
        rw [waiting] at there
        cases there

/-- After a pass the supervisor sleeps, unless a wake without due work to a free Steward
    keeps it awake. -/
theorem supervisor_sleeps_iff (core : TrackerCore) (ids : Nat → OpaqueId) (now : Nat)
    (early : now + 60000 < u64Max) :
    Quiet (supervise core ids now) now ↔ WakesHaveWork core now := by
  constructor
  · intro quiet
    exact (supervise_wakes early).mp (later_schedule.mp quiet.2).2
  · intro work
    refine ⟨supervise_deadlines early,later_schedule.mpr ⟨supervise_steps early,?_⟩⟩
    exact (supervise_wakes early).mpr work

def someId : OpaqueId := { text := "0123456789abcdef0123456789abcdef", usable := by decide }

/-- Two Routines are due and the Steward is free: it is woken, and the supervisor sleeps. -/
theorem woken_steward_lets_supervisor_sleep :
    10 + 60000 < u64Max ∧ idleCore.hasDueAssignment "p" 10 = false ∧
      (settled idleCore 10).hasDueAssignment "p" 10 = true ∧
      Quiet (supervise idleCore (fun _ => someId) 10) 10 := by
  have none : WakesHaveWork idleCore 10 := by
    intro steward _ sessionId _ _ _ wake waiting
    cases waiting
  refine ⟨by decide,by decide,by decide,?_⟩
  exact (supervisor_sleeps_iff idleCore (fun _ => someId) 10 (by decide)).mpr none

def oneRoutine (enabled : Bool) : RoutineStore :=
  { trackerConfigurations := [{ hourlyRoutine "triage" 5 with enabled := enabled }]
    stewardConfigurations :=
      [{ projectId := "p", enabled := true, generation := 1, executorSessionId := some "s1" }]
    playbookConfigurations := [], tasks := [], playbookStepProgress := []
    uniqueRoutines := by cases enabled <;> decide }

def triageWake : DueStewardWake :=
  { projectId := "p", stewardGeneration := 1, stewardSessionId := "s1" }

def triageCapability : TrackerCheckCapability :=
  { projectId := "p", trackerId := "triage", checkId := "check-1", generation := 1, claimedAt := 10
    deadline := 600010, stewardGeneration := 1, stewardSessionId := "s1" }

/-- A wake is put off to 5010, and its Routine switched off before that. -/
def disabledBeforeRetry : List Action :=
  [.admitWakes 10, .claimDue triageWake "check-1" 10, .release triageCapability,
    .failDelivery triageWake 5010, .save (oneRoutine false), .cancelRoutine "triage"]

def triageCore : TrackerCore :=
  { store := oneRoutine true, agentStates := ∅, runtime := .empty }

/-- At 5010 admission passes over the Project, and the supervisor finds the time of its
    undeliverable wake, now and ever after. -/
theorem disabled_routine_keeps_supervisor_awake :
    ∃ core, Run Step triageCore disabledBeforeRetry core ∧ triageCore.runtime = .empty ∧
      (supervise core (fun _ => someId) 5010).nextTrackerSchedule.1 = some 5010 ∧
      ¬ Quiet (supervise core (fun _ => someId) 5010) 5010 := by
  let woken := perform triageCore (.admitWakes 10)
  let claimed := perform woken (.claimDue triageWake "check-1" 10)
  let released := perform claimed (.release triageCapability)
  let failed := perform released (.failDelivery triageWake 5010)
  let saved := perform failed (.save (oneRoutine false))
  let cancelled := perform saved (.cancelRoutine "triage")
  have unheld : ∀ held ∈ woken.runtime.checks, held.2.checkId ≠ "check-1" := by decide
  have claim : Step woken (.claimDue triageWake "check-1" 10) claimed := by
    refine ⟨?_,rfl⟩
    intro checkId brought
    cases brought
    exact unheld
  have first : Step triageCore (.admitWakes 10) woken := ⟨nofun,rfl⟩
  have third : Step claimed (.release triageCapability) released := ⟨nofun,rfl⟩
  have fourth : Step released (.failDelivery triageWake 5010) failed := ⟨nofun,rfl⟩
  have fifth : Step failed (.save (oneRoutine false)) saved := ⟨nofun,rfl⟩
  have last : Step saved (.cancelRoutine "triage") cancelled := ⟨nofun,rfl⟩
  have run : Run Step triageCore disabledBeforeRetry cancelled :=
    .cons first (.cons claim (.cons third (.cons fourth (.cons fifth (run_single last)))))
  have time : (supervise cancelled (fun _ => someId) 5010).nextTrackerSchedule.1 =
      some 5010 := by decide
  exact ⟨cancelled,run,rfl,time,fun quiet => Nat.lt_irrefl _ (quiet.2 5010 time)⟩

end TermloopQuiet
