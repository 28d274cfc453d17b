import Mathlib.Data.List.Perm.Subperm
import Termloop.Core.TrackerSchedules
import Termloop.Lib.Runs

/-!
Who holds which check. A Steward is to hold at most one check of its Project, a step
is to be checked at most once for a Task, and a Project runs at most eight step
checks. Every operation but a claim only takes checks away, so the claims decide it.

The claim of a step looks at what is held and keeps all three. The claim of a
scheduled Routine gives up the check that the Steward held before, but it looks for
that check under the Session that is calling: when the Steward has been replaced, the
check of the old Session is neither handed on nor given up, and a second one is held
beside it.
-/
namespace TermloopClaims
open TermloopRuns TermloopRecordLists TermloopKeyed TermloopRoutine TermloopTracker List
  TermloopSchedules

def stewardChecks (runtime : TrackerRuntimeState) (projectId : String) :
    List (String × ActiveTrackerCheck) :=
  runtime.checks.filter fun held => held.2.projectId == projectId && held.2.stepTaskId.isNone

def taskChecks (runtime : TrackerRuntimeState) (routineId taskId : String) :
    List (String × ActiveTrackerCheck) :=
  runtime.checks.filter fun held => held.1 == routineId && held.2.stepTaskId == some taskId

structure Exclusive (runtime : TrackerRuntimeState) : Prop where
  steward : ∀ projectId, (stewardChecks runtime projectId).length ≤ 1
  task : ∀ routineId taskId, (taskChecks runtime routineId taskId).length ≤ 1
  slots : ∀ projectId, runtime.projectStepCheckCount projectId ≤ projectStepChecksMax

/-- What of a check no operation ever changes while the check is held. -/
structure Slot where
  (routineId checkId projectId : String)
  taskId : Option String

def slot (held : String × ActiveTrackerCheck) : Slot :=
  ⟨held.1, held.2.checkId, held.2.projectId, held.2.stepTaskId⟩

def Slot.isSteward (projectId : String) (held : Slot) : Bool :=
  held.projectId == projectId && held.taskId.isNone

def Slot.isTask (routineId taskId : String) (held : Slot) : Bool :=
  held.routineId == routineId && held.taskId == some taskId

def Slot.isStep (projectId : String) (held : Slot) : Bool :=
  held.projectId == projectId && held.taskId.isSome

def slots (runtime : TrackerRuntimeState) : List Slot := runtime.checks.map slot

structure Tidy (held : List Slot) : Prop where
  steward : ∀ projectId, held.countP (Slot.isSteward projectId) ≤ 1
  task : ∀ routineId taskId, held.countP (Slot.isTask routineId taskId) ≤ 1
  slots : ∀ projectId, held.countP (Slot.isStep projectId) ≤ projectStepChecksMax
  distinct : (held.map Slot.checkId).Nodup

variable {rt after : TrackerRuntimeState} {store : RoutineStore} {steward : StewardConfiguration}
  {rid pid : String} {now : Nat} {held : String × ActiveTrackerCheck}

theorem stewardChecks_length : (stewardChecks rt pid).length =
    (slots rt).countP (Slot.isSteward pid) := by
  rw [slots, countP_map, countP_eq_length_filter]
  rfl

theorem stepCount_eq : rt.projectStepCheckCount pid = (slots rt).countP (Slot.isStep pid) := by
  rw [slots, countP_map]
  rfl

theorem exclusive_of_tidy (tidy : Tidy (slots rt)) : Exclusive rt := by
  refine ⟨fun pid => ?_,fun rid tid => ?_,fun pid => ?_⟩
  · rw [stewardChecks_length]
    exact tidy.steward pid
  · have counted := tidy.task rid tid
    rwa [slots, countP_map, countP_eq_length_filter] at counted
  · rw [stepCount_eq]
    exact tidy.slots pid

theorem tidy_of_subperm {held kept : List Slot} (part : kept.Subperm held) (tidy : Tidy held) :
    Tidy kept := by
  refine ⟨fun pid => ?_,fun rid tid => ?_,fun pid => ?_,?_⟩
  · exact (part.countP_le _).trans (tidy.steward pid)
  · exact (part.countP_le _).trans (tidy.task rid tid)
  · exact (part.countP_le _).trans (tidy.slots pid)
  · obtain ⟨order,same,inside⟩ := part
    have ordered := (inside.map Slot.checkId).nodup tidy.distinct
    exact (same.map Slot.checkId).nodup_iff.mp ordered

theorem tidy_cons {held : List Slot} (tidy : Tidy held)
    (unused : new.checkId ∉ held.map Slot.checkId)
    (steward : new.taskId = none → held.countP (Slot.isSteward new.projectId) = 0)
    (task : ∀ tid, new.taskId = some tid →
      held.countP (Slot.isTask new.routineId tid) = 0 ∧
        held.countP (Slot.isStep new.projectId) < projectStepChecksMax) :
    Tidy (new :: held) := by
  refine ⟨fun pid => ?_,fun rid tid => ?_,fun pid => ?_,?_⟩
  · rw [countP_cons]
    split
    next counts =>
      obtain ⟨here,own⟩ : new.projectId = pid ∧ new.taskId = none := by
        simpa [Slot.isSteward] using counts
      have room := steward own
      rw [here] at room
      omega
    next => exact tidy.steward pid
  · rw [countP_cons]
    split
    next counts =>
      obtain ⟨here,asked⟩ : new.routineId = rid ∧ new.taskId = some tid := by
        simpa [Slot.isTask] using counts
      have room := (task tid asked).1
      rw [here] at room
      omega
    next => exact tidy.task rid tid
  · rw [countP_cons]
    split
    next counts =>
      obtain ⟨here,step⟩ : new.projectId = pid ∧ new.taskId.isSome := by
        simpa [Slot.isStep] using counts
      obtain ⟨tid,asked⟩ := Option.isSome_iff_exists.mp step
      have room := (task tid asked).2
      rw [here] at room
      omega
    next => exact tidy.slots pid
  · exact nodup_cons.mpr ⟨unused,tidy.distinct⟩

def Shrinks (before after : TrackerRuntimeState) : Prop :=
  (slots after).Subperm (slots before)

section Shrinking
variable {pre middle : TrackerRuntimeState}

theorem slots_gather : slots rt = gather (fun rid health =>
      health.checks.map fun check => slot (rid, check)) rt.health := by
  rw [slots, TrackerRuntimeState.checks, gather, gather, map_flatMap]
  simp only [map_map]
  rfl

theorem Shrinks.trans (first : Shrinks pre middle) (second : Shrinks middle after) :
    Shrinks pre after :=
  List.Subperm.trans second first

theorem shrinks_of_same (same : after.health = pre.health) : Shrinks pre after := by
  rw [Shrinks, slots_gather, slots_gather, same]

theorem shrinks_of_update (fewer : ∀ health, (change health).checks.Sublist health.checks)
    (updated : after.health = update rid change pre.health) : Shrinks pre after := by
  rw [Shrinks, slots_gather, slots_gather, updated]
  exact gather_update_subperm (fun health => (fewer health).map _) pre.health

theorem advance_shrinks (now : Nat) (health : TrackerHealth) (rid : String) :
    ((health.advance now).checks.map fun check => slot (rid, check)).Sublist
      (health.checks.map fun check => slot (rid, check)) := by
  have kept := (filter_sublist (p := fun active : ActiveTrackerCheck => !active.overdue now)
    (l := health.checks.map (ActiveTrackerCheck.pinged now))).map fun check =>
      slot (rid, check)
  rw [map_map] at kept
  exact kept

theorem shrinks_of_advance
    (advanced : after.health = mapValues (fun _ health => health.advance now) pre.health) :
    Shrinks pre after := by
  rw [Shrinks, slots_gather, slots_gather, advanced]
  exact (gather_mapValues_sublist _ _ (fun rid health =>
    advance_shrinks now health rid) pre.health).subperm

end Shrinking

theorem mem_checks : held ∈ rt.checks ↔
      ∃ health, rt.health.lookup held.1 = some health ∧ held.2 ∈ health.checks := by
  rw [TrackerRuntimeState.checks, mem_gather]
  constructor
  · rintro ⟨rid,health,hit,mem⟩
    obtain ⟨check,inside,same⟩ := mem_map.mp mem
    subst same
    exact ⟨health,hit,inside⟩
  · rintro ⟨health,hit,inside⟩
    exact ⟨held.1,health,hit,mem_map.mpr ⟨held.2,inside,rfl⟩⟩

theorem hold_checks :
    (holdRoutineCheck rt rid cap step).checks.Perm ((rid, newCheck cap step) :: rt.checks) := by
  rw [TrackerRuntimeState.checks, TrackerRuntimeState.checks]
  dsimp only [holdRoutineCheck]
  rw [gather_insert, map_append]
  cases hit : rt.health.lookup rid with
  | none =>
    rw [erase_of_absent hit]
    exact .refl _
  | some health =>
    have whole := @gather_perm _ _ _ _ (fun rid (health : TrackerHealth) =>
      health.checks.map fun check => (rid, check)) _ _ _ hit
    rw [Option.getD_some, append_assoc]
    exact perm_middle.trans (whole.symm.cons _)

theorem unchecked_count (free : rt.stepTaskIsChecked rid tid = false) :
    (slots rt).countP (Slot.isTask rid tid) = 0 := by
  rw [countP_eq_zero]
  intro held mem counts
  obtain ⟨⟨owner,check⟩,inside,same⟩ := mem_map.mp mem
  subst same
  obtain ⟨here,asked⟩ : owner = rid ∧ check.stepTaskId = some tid := by
    simpa [Slot.isTask, slot] using counts
  obtain ⟨health,hit,mem⟩ := mem_checks.mp inside
  rw [here] at hit
  have checked : rt.stepTaskIsChecked rid tid := by
    rw [TrackerRuntimeState.stepTaskIsChecked, hit, Option.any_some]
    exact any_eq_true.mpr ⟨check,mem,beq_iff_eq.mpr asked⟩
  rw [checked] at free
  cases free

theorem eq_of_checkId (tidy : Tidy (slots rt)) (here : left ∈ rt.checks) (there : right ∈ rt.checks)
    (same : left.2.checkId = right.2.checkId) : left = right := by
  have nodup := tidy.distinct
  rw [slots, map_map] at nodup
  exact inj_on_of_nodup_map nodup here there same

theorem stewardChecks_eq_singleton (tidy : Tidy (slots rt)) (mine : held ∈ stewardChecks rt pid) :
    stewardChecks rt pid = [held] := by
  have few := (exclusive_of_tidy tidy).steward pid
  obtain ⟨only,shape⟩ := length_eq_one_iff.mp (Nat.le_antisymm few (length_pos_of_mem mine))
  rw [shape] at mine ⊢
  rw [mem_singleton.mp mine]

section Release
variable {active : ActiveTrackerCheck}

theorem release_shrinks : Shrinks rt (releaseStewardRoutineClaim rt cap).2 := by
  have fewer : ∀ health : TrackerHealth,
      (health.removeCheck cap.checkId).checks.Sublist health.checks :=
    fun health => filter_sublist
  rw [releaseStewardRoutineClaim]
  split
  · exact List.Subperm.refl _
  dsimp only
  split
  · exact shrinks_of_update fewer rfl
  · exact shrinks_of_update fewer rfl

theorem release_removes (tidy : Tidy (slots rt)) (held : (rid, active) ∈ rt.checks) :
    ∀ other ∈ (releaseStewardRoutineClaim rt (activeCapability rid active)).2.checks,
      other ∈ rt.checks ∧ other ≠ (rid, active) := by
  obtain ⟨health,hit,mem⟩ := mem_checks.mp held
  have only : ∀ check ∈ health.checks, (check.checkId == active.checkId) →
      check = active := by
    intro check inside same
    have there : (rid, check) ∈ rt.checks := mem_checks.mpr ⟨health,hit,inside⟩
    exact congrArg Prod.snd (eq_of_checkId tidy there held (beq_iff_eq.mp same))
  have claimed : rt.claimedCheck (activeCapability rid active) = some active := by
    rw [TrackerRuntimeState.claimedCheck]
    dsimp only [activeCapability]
    rw [hit, Option.bind_some]
    exact find?_eq_some_of_only mem (beq_self_eq_true _) only
  have whole : matchesClaim (activeCapability rid active) active := by
    simp [matchesClaim, activeCapability]
  intro other remains
  rw [releaseStewardRoutineClaim, claimed, Option.filter_some, if_pos whole] at remains
  have taken : ∃ left, (update rid (fun health => health.removeCheck active.checkId)
      rt.health).lookup other.1 = some left ∧ other.2 ∈ left.checks := by
    dsimp only at remains
    split at remains
    · exact mem_checks.mp remains
    · exact mem_checks.mp remains
  obtain ⟨left,kept,inside⟩ := taken
  rw [lookup_update] at kept
  split at kept
  next same =>
    rw [same, hit, Option.map_some] at kept
    cases kept
    obtain ⟨old,apart⟩ := mem_filter.mp inside
    refine ⟨mem_checks.mpr ⟨health,by rw [same, hit],old⟩,fun equal => ?_⟩
    rw [equal] at apart
    simp at apart
  next apart =>
    exact ⟨mem_checks.mpr ⟨left,kept,inside⟩,fun equal => apart (congrArg Prod.fst equal)⟩

end Release

variable (runtime : TrackerRuntimeState) (projectId sessionId checkId : String) in
/-- Nothing is handed out, the Steward's check is handed out again, or a new one is held
    where none was. -/
inductive StewardClaims : Except CoreError StewardRoutineClaim → TrackerRuntimeState → Prop where
  | nothing {result : Except CoreError StewardRoutineClaim} {after : TrackerRuntimeState}
      (shrinks : Shrinks runtime after)
      (empty : ∀ claim, result = .ok claim → claim.capability = none) :
      StewardClaims result after
  | again {claim : StewardRoutineClaim} {capability : TrackerCheckCapability}
      {held : String × ActiveTrackerCheck} {after : TrackerRuntimeState}
      (mine : held ∈ stewardChecks runtime projectId)
      (given : claim.capability = some capability)
      (routine : capability.trackerId = held.1) (check : capability.checkId = held.2.checkId)
      (same : after.health = runtime.health) :
      StewardClaims (.ok claim) after
  | fresh {claim : StewardRoutineClaim} {capability : TrackerCheckCapability}
      {released after : TrackerRuntimeState}
      (shrinks : Shrinks runtime released) (free : stewardChecks released projectId = [])
      (given : claim.capability = some capability)
      (project : capability.projectId = projectId) (check : capability.checkId = checkId)
      (session : capability.stewardSessionId = sessionId)
      (held : after.checks.Perm ((capability.trackerId, newCheck capability none) ::
        released.checks)) :
      StewardClaims (.ok claim) after

section Claiming
variable {released : TrackerRuntimeState} {sid checkId : String}
  {result : Except CoreError StewardRoutineClaim}

theorem claimReady_claims (shrinks : Shrinks rt released) (free : stewardChecks released pid = [])
    (ran : claimReadyRoutine store released steward pid sid checkId now = (result, after)) :
    StewardClaims rt pid sid checkId result after := by
  have settled : Shrinks rt (initializeRoutineSchedules store released) :=
    shrinks.trans (shrinks_of_same initialize_health)
  dsimp only [claimReadyRoutine] at ran
  split at ran
  next =>
    cases ran
    exact .nothing settled (fun claim given => by cases given; rfl)
  next due routine least =>
    split at ran
    next =>
      cases ran
      exact .nothing settled nofun
    next =>
      cases ran
      refine .fresh settled ?_ rfl rfl rfl rfl hold_checks
      rw [stewardChecks, initialize_checks]
      exact free

theorem claimNext_claims (tidy : Tidy (slots rt))
    (named : ∀ held ∈ stewardChecks rt pid, held.2.stewardSessionId = sid)
    (ran : claimNextStewardRoutine store rt pid sid checkId now = (result, after)) :
    StewardClaims rt pid sid checkId result after := by
  rw [claimNextStewardRoutine] at ran
  split at ran
  next =>
    cases ran
    exact .nothing (List.Subperm.refl _) nofun
  next steward cur =>
    let unpended : TrackerRuntimeState :=
      { rt with pendingStewardWakes := rt.pendingStewardWakes.erase pid }
    have same : Shrinks rt unpended := shrinks_of_same rfl
    dsimp only at ran
    split at ran
    next absent =>
      exact claimReady_claims same (filter_eq_nil_iff.mpr (find?_eq_none.mp absent)) ran
    next rid active hit =>
      have mine : (rid, active) ∈ stewardChecks rt pid :=
        mem_filter.mpr ⟨mem_of_find?_eq_some hit,(find?_some hit :)⟩
      have held : (rid, active) ∈ unpended.checks := mem_of_find?_eq_some hit
      have own : { activeCapability rid active with stewardSessionId := sid } =
          activeCapability rid active := by
        rw [← named _ mine]
        rfl
      rw [own] at ran
      have gone : stewardChecks (releaseStewardRoutineClaim unpended
          (activeCapability rid active)).2 pid = [] := by
        apply filter_eq_nil_iff.mpr
        intro other remains steward
        obtain ⟨old,apart⟩ := @release_removes unpended rid active tidy held other remains
        have there : other ∈ stewardChecks rt pid := mem_filter.mpr ⟨old,steward⟩
        rw [stewardChecks_eq_singleton tidy mine] at there
        exact apart (mem_singleton.mp there)
      have givenUp := same.trans (@release_shrinks unpended (activeCapability rid active))
      split at ran
      next routine valid =>
        split at ran
        next =>
          cases ran
          exact .again mine rfl rfl rfl rfl
        next => exact claimReady_claims givenUp gone ran
      next => exact claimReady_claims givenUp gone ran

theorem claims_tidy (tidy : Tidy (slots rt)) (new : checkId ∉ (slots rt).map Slot.checkId)
    (claims : StewardClaims rt pid sid checkId result after) :
    Tidy (slots after) := by
  cases claims with
  | nothing shrinks empty => exact tidy_of_subperm shrinks tidy
  | again mine given routine check same => exact tidy_of_subperm (shrinks_of_same same) tidy
  | @fresh claim cap released _ shrinks free given project check sess held =>
    have tidied := tidy_of_subperm shrinks tidy
    have room : (slots released).countP (Slot.isSteward cap.projectId) = 0 := by
      rw [project, ← stewardChecks_length, free]
      rfl
    have unused : cap.checkId ∉ (slots released).map Slot.checkId := by
      intro used
      obtain ⟨old,mem,same⟩ := mem_map.mp used
      exact new (mem_map.mpr ⟨old,shrinks.subset mem,same.trans check⟩)
    apply tidy_of_subperm (held.map slot).subperm
    exact tidy_cons tidied unused (fun _ => room) nofun

theorem claims_only (tidy : Tidy (slots rt))
    (named : ∀ held ∈ stewardChecks rt pid, held.2.stewardSessionId = sid)
    (claims : StewardClaims rt pid sid checkId (.ok claim) after)
    (given : claim.capability = some cap) :
    ∃ check, stewardChecks after pid = [(cap.trackerId, check)] ∧
      check.checkId = cap.checkId ∧ check.stewardSessionId = sid := by
  cases claims with
  | nothing shrinks empty =>
    rw [empty claim rfl] at given
    cases given
  | @again _ handed held _ mine handedOut routine check same =>
    rw [handedOut] at given
    cases given
    refine ⟨held.2,?_,check.symm,named held mine⟩
    rw [routine, stewardChecks, TrackerRuntimeState.checks, same]
    exact stewardChecks_eq_singleton tidy mine
  | @fresh _ handed released _ shrinks free handedOut project check sess held =>
    rw [handedOut] at given
    cases given
    refine ⟨newCheck cap none,?_,rfl,sess⟩
    have kept := held.filter fun held =>
      held.2.projectId == pid && held.2.stepTaskId.isNone
    have shape : ((cap.trackerId, newCheck cap none) :: released.checks).filter
        (fun held => held.2.projectId == pid && held.2.stepTaskId.isNone) =
          (cap.trackerId, newCheck cap none) :: stewardChecks released pid := by
      apply filter_cons_of_pos
      simp [newCheck, project]
    rw [shape, free] at kept
    exact perm_singleton.mp kept

@[simp] theorem overridesWait_health : (overridesWait runtime routineId tid).2.health = runtime.health := by
  rw [overridesWait]
  split
  · rfl
  · split <;> rfl

theorem claimFirstStep_holds
    (ran : claimFirstStep store rt steward pid checkId now routines = some (claim, after)) :
    ∃ routine ∈ routines, ∃ step, playbookStepAssignment store rt routine.id = some step ∧
      after = holdRoutineCheck (overridesWait rt routine.id step.waiting.taskId).2 routine.id
        (stepCapability steward pid routine checkId now) (some step) := by
  induction routines with
  | nil => cases ran
  | cons routine rest ih =>
    rw [claimFirstStep] at ran
    split at ran
    next =>
      obtain ⟨other,mem,hit⟩ := ih ran
      exact ⟨other,mem_cons_of_mem _ mem,hit⟩
    next step next =>
      dsimp only at ran
      split at ran
      next =>
        obtain ⟨other,mem,hit⟩ := ih ran
        exact ⟨other,mem_cons_of_mem _ mem,hit⟩
      next =>
        cases ran
        exact ⟨routine,mem_cons_self,step,next,rfl⟩

def claimedStep (steward : StewardConfiguration) (projectId checkId : String) (now : Nat)
    (runtime : TrackerRuntimeState) (routine : TrackerConfiguration)
    (step : PlaybookStepAssignment) : TrackerRuntimeState :=
  holdRoutineCheck (overridesWait runtime routine.id step.waiting.taskId).2 routine.id
    (stepCapability steward projectId routine checkId now) (some step)

variable (store : RoutineStore) (runtime : TrackerRuntimeState) (projectId checkId : String)
  (now : Nat) in
/-- The claim is refused at once, finds no slot or no question that is due, or holds the
    check of one question. -/
inductive StepClaims :
    Except CoreError (Option StewardRoutineClaim) × TrackerRuntimeState → Prop where
  | refused {result : Except CoreError (Option StewardRoutineClaim)}
      (why : checkIdIsInvalid checkId = true ∨ store.playbookSteward projectId = none) :
      StepClaims (result, runtime)
  | full (slots : projectStepChecksMax ≤ runtime.projectStepCheckCount projectId) :
      StepClaims (.ok none, initializeRoutineSchedules store runtime)
  | nothing (steward : StewardConfiguration)
      (none : claimFirstStep store (initializeRoutineSchedules store runtime) steward projectId
        checkId now (dueStepRoutines store (initializeRoutineSchedules store runtime) projectId
          now) = none) :
      StepClaims (.ok .none, initializeRoutineSchedules store runtime)
  | claimed (steward : StewardConfiguration) (claim : StewardRoutineClaim)
      (routine : TrackerConfiguration) (step : PlaybookStepAssignment)
      (room : runtime.projectStepCheckCount projectId < projectStepChecksMax)
      (due : routine ∈ dueStepRoutines store (initializeRoutineSchedules store runtime) projectId
        now)
      (next : playbookStepAssignment store (initializeRoutineSchedules store runtime) routine.id =
        some step) :
      StepClaims
        (.ok (some claim), claimedStep steward projectId checkId now
          (initializeRoutineSchedules store runtime) routine step)

theorem claimStep_claims : StepClaims store rt pid checkId now
      (claimNextPlaybookStep store rt pid checkId now) := by
  rw [claimNextPlaybookStep]
  split
  next invalid => exact .refused (.inl invalid)
  next =>
    split
    next absent => exact .refused (.inr absent)
    next steward _ =>
      have same : (initializeRoutineSchedules store rt).projectStepCheckCount pid =
          rt.projectStepCheckCount pid := by
        rw [TrackerRuntimeState.projectStepCheckCount, initialize_checks]
        rfl
      dsimp only
      rw [same]
      split
      next slots => exact .full slots
      next room =>
        split
        next claim held claimed =>
          obtain ⟨routine,due,step,next,shape⟩ := claimFirstStep_holds claimed
          subst shape
          exact .claimed steward claim routine step (Nat.lt_of_not_le room) due next
        next none => exact .nothing steward none

theorem claimedStep_checks : (claimedStep steward pid checkId now rt routine step).checks.Perm
      ((routine.id, newCheck (stepCapability steward pid routine checkId now) (some step)) ::
        rt.checks) := by
  have same : (overridesWait rt routine.id step.waiting.taskId).2.checks = rt.checks := by
    rw [TrackerRuntimeState.checks, overridesWait_health]
    rfl
  rw [← same]
  exact hold_checks

theorem claimStep_tidy (tidy : Tidy (slots rt)) (new : checkId ∉ (slots rt).map Slot.checkId) :
    Tidy (slots (claimNextPlaybookStep store rt pid checkId now).2) := by
  have claims := @claimStep_claims rt store pid now checkId
  generalize claimNextPlaybookStep store rt pid checkId now = outcome at claims ⊢
  cases claims with
  | refused why => exact tidy
  | full | nothing => exact tidy_of_subperm (shrinks_of_same initialize_health) tidy
  | claimed steward claim routine step room due next =>
    have held := @claimedStep_checks (initializeRoutineSchedules store rt) steward pid
      now checkId routine step
    rw [initialize_checks] at held
    have free : (slots rt).countP (Slot.isTask routine.id step.waiting.taskId) = 0 := by
      apply unchecked_count
      have unchecked := assignment_unchecked next
      rwa [TrackerRuntimeState.stepTaskIsChecked, initialize_health] at unchecked
    rw [stepCount_eq] at room
    apply tidy_of_subperm (held.map slot).subperm
    refine tidy_cons tidy new (by cases ·) ?_
    intro tid asked
    cases asked
    exact ⟨free,room⟩

end Claiming

/-- Calls that reach the runtime. The store may be saved at any moment, which may also give
    a Steward another Session. -/
inductive Action where
  | save (store : RoutineStore)
  | observe (sessionId : String) (state : AgentState)
  | nudge (nudges : AList fun _ : String × String => Nat)
  | claimRoutine (projectId sessionId checkId : String) (now : Nat)
  | claimDue (wake : DueStewardWake) (checkId : String) (now : Nat)
  | claimStep (projectId checkId : String) (now : Nat)
  | finishRoutine (capability : TrackerCheckCapability) (attentionMessage : Option String)
      (completedAt : Nat)
  | finishStep (capability : TrackerCheckCapability) (completedAt : Nat)
  | release (capability : TrackerCheckCapability)
  | postpone (capability : TrackerCheckCapability) (retryAt : Nat)
  | cancelRoutine (routineId : String)
  | cancelTask (routineId taskId : String)
  | removeRoutine (routineId : String)
  | scheduleNow (routineId : String) (now : Nat)
  | runNow (routineId : String) (taskId : Option String) (now : Nat)
  | advance (now : Nat)
  | admitWakes (now : Nat)
  | failDelivery (wake : DueStewardWake) (retryAt : Nat)
  | acknowledge (wake : DueStewardWake)
  | nextSchedule | retainCurrent

/-- The runtime after a call. A report finishes its check only when validation finds it. -/
def react (core : TrackerCore) : Action → TrackerRuntimeState
  | .save _ | .observe _ _ => core.runtime
  | .nudge nudges => { core.runtime with stepTaskNudge := nudges }
  | .claimRoutine projectId sessionId checkId now =>
    (claimNextStewardRoutine core.store core.runtime projectId sessionId checkId now).2
  | .claimDue wake checkId now =>
    (claimDueStewardRoutine core.store core.runtime wake checkId now).2
  | .claimStep projectId checkId now =>
    (claimNextPlaybookStep core.store core.runtime projectId checkId now).2
  | .finishRoutine capability attentionMessage completedAt =>
    match validateCurrentCheck core.store core.runtime capability completedAt with
    | .ok configuration =>
      (finishStewardRoutineCheck core.store core.runtime capability attentionMessage completedAt
        configuration).2
    | .error _ => core.runtime
  | .finishStep capability completedAt =>
    match validateCurrentCheck core.store core.runtime capability completedAt with
    | .ok configuration =>
      (finishStewardStepCheck core.runtime capability completedAt configuration).2
    | .error _ => core.runtime
  | .release capability => (releaseStewardRoutineClaim core.runtime capability).2
  | .postpone capability retryAt => postponePlaybookStep core.runtime capability retryAt
  | .cancelRoutine routineId => core.runtime.cancelTrackerCheck routineId
  | .cancelTask routineId taskId => core.runtime.cancelStepTaskCheck routineId taskId
  | .removeRoutine routineId => core.runtime.removeTracker routineId
  | .scheduleNow routineId now => core.runtime.scheduleTrackerNow routineId now
  | .runNow routineId taskId now =>
    (runRoutineNowTarget core.store core.runtime routineId taskId now).2
  | .advance now => (advanceTrackerDeadlines core.runtime now).2
  | .admitWakes now => (core.admitDueStewardWakes now).2
  | .failDelivery wake retryAt =>
    failStewardAssignmentDelivery core.store core.runtime wake retryAt
  | .acknowledge wake => acknowledgeStewardAssignmentDelivery core.runtime wake
  | .nextSchedule => core.nextTrackerSchedule.2
  | .retainCurrent => retainCurrentTrackerRuntime core.store core.runtime

def perform (core : TrackerCore) (action : Action) : TrackerCore :=
  { store := match action with
      | .save store => store
      | _ => core.store
    agentStates := match action with
      | .observe sessionId state => core.agentStates.insert sessionId state
      | _ => core.agentStates
    runtime := react core action }

def Action.checkId : Action → Option String
  | .claimRoutine _ _ checkId _ | .claimDue _ checkId _ | .claimStep _ checkId _ => some checkId
  | _ => none

def Step (core : TrackerCore) (action : Action) (after : TrackerCore) : Prop :=
  (∀ checkId, action.checkId = some checkId → ∀ held ∈ core.runtime.checks,
    held.2.checkId ≠ checkId) ∧
  perform core action = after

def NamesCaller (runtime : TrackerRuntimeState) (projectId sessionId : String) : Prop :=
  ∀ held ∈ stewardChecks runtime projectId, held.2.stewardSessionId = sessionId

/-- No Steward asks for work while a check of its Project is held under another Session. -/
def SameSession (core : TrackerCore) : Action → Prop
  | .claimRoutine projectId sessionId _ _ => NamesCaller core.runtime projectId sessionId
  | .claimDue wake _ _ => NamesCaller core.runtime wake.projectId wake.stewardSessionId
  | _ => True

section Reacting
variable {core : TrackerCore} {cap : TrackerCheckCapability} {attentionMessage : Option String}
  {completedAt : Nat} {config : TrackerConfiguration}

theorem endStepRunNow_health : (endStepRunNow rt rid tid).health = rt.health := by
  rw [endStepRunNow]
  split <;> rfl

theorem finish_shrinks (same : rt.health = pre.health) :
    Shrinks pre (finishRuntimeCheck rt cap attentionMessage completedAt interval).2 := by
  have fewer : ∀ health : TrackerHealth, ({ health.removeCheck cap.checkId with
        attentionMessage := attentionMessage
        pendingTrigger := false } : TrackerHealth).checks.Sublist health.checks :=
    fun health => filter_sublist
  exact (shrinks_of_same same).trans (shrinks_of_update fewer rfl)

theorem finishRoutine_shrinks :
    Shrinks rt (finishStewardRoutineCheck store rt cap attentionMessage completedAt config).2 := by
  dsimp only [finishStewardRoutineCheck]
  apply finish_shrinks
  split
  · split
    · rfl
    · exact endStepRunNow_health
  · rfl

theorem finishStep_shrinks : Shrinks rt (finishStewardStepCheck rt cap completedAt config).2 := by
  dsimp only [finishStewardStepCheck]
  apply finish_shrinks
  split
  · exact endStepRunNow_health
  · rfl

theorem postpone_shrinks : Shrinks rt (postponePlaybookStep rt cap retryAt) := by
  have released := @release_shrinks rt cap
  rw [postponePlaybookStep]
  generalize releaseStewardRoutineClaim rt cap = outcome at released ⊢
  obtain ⟨done,given⟩ := outcome
  cases done with
  | false => exact released
  | true =>
    cases rt.claimedStepTaskId cap with
    | none => exact released
    | some tid => exact released.trans (shrinks_of_same rfl)

theorem postponeExpired_shape (retryAt : Nat) (expired : List (String × Option String)) :
    ∀ rt : TrackerRuntimeState, ∃ nextDue stepTaskNotBefore,
      expired.foldl (postponeExpired retryAt) rt =
        { rt with nextDue := nextDue, stepTaskNotBefore := stepTaskNotBefore } := by
  induction expired with
  | nil => exact fun rt => ⟨_,_,rfl⟩
  | cons first rest ih =>
    intro rt
    obtain ⟨rid,step⟩ := first
    cases step with
    | none =>
      exact ih { rt with nextDue := rt.nextDue.insert rid retryAt }
    | some tid =>
      exact ih { rt with
        stepTaskNotBefore := rt.stepTaskNotBefore.insert (rid, tid) retryAt }

theorem advance_health : (advanceTrackerDeadlines rt now).2.health =
      mapValues (fun _ health => health.advance now) rt.health := by
  dsimp only [advanceTrackerDeadlines]
  obtain ⟨nextDue,stepTaskNotBefore,shape⟩ := postponeExpired_shape
    (TermloopSaturating.saturatingAdd now checkTimeoutRetryMs) (expiredChecks rt now)
    { rt with health := mapValues (fun _ health => health.advance now) rt.health }
  rw [shape]

theorem admitStewardWake_health :
    (core.admitStewardWake busy now wakes steward).2.health = core.runtime.health := by
  rw [TrackerCore.admitStewardWake]
  split
  · rfl
  split
  · rfl
  · split <;> rfl

theorem admitted_health (stewards : List StewardConfiguration) :
    ∀ admitted : List DueStewardWake × TrackerRuntimeState, (stewards.foldl (fun admitted steward =>
        { core with runtime := admitted.2 }.admitStewardWake busy now admitted.1 steward)
        admitted).2.health = admitted.2.health := by
  induction stewards with
  | nil => exact fun admitted => rfl
  | cons steward rest ih =>
    intro admitted
    rw [foldl_cons, ih]
    exact admitStewardWake_health

theorem requestRun_shrinks : Shrinks rt (requestRun rt routine tid now) := by
  have marked : ∀ health : TrackerHealth,
      ({ health with pendingTrigger := true } : TrackerHealth).checks.Sublist health.checks :=
    fun health => .refl _
  have triggered : Shrinks rt
      (triggerActive (rt.scheduleTrackerNow routine.id now) routine.id) := by
    rw [triggerActive]
    split
    · exact shrinks_of_update marked rfl
    · exact shrinks_of_same rfl
  dsimp only [requestRun]
  split
  · exact triggered.trans (shrinks_of_same rfl)
  · exact shrinks_of_same rfl

theorem runNow_shrinks : Shrinks rt (runRoutineNowTarget store rt rid tid now).2 := by
  have refl : Shrinks rt rt := List.Subperm.refl _
  rw [runRoutineNowTarget]
  split
  · exact refl
  dsimp only
  iterate 4 (split; · exact refl)
  · exact requestRun_shrinks

theorem claimDue_health : (claimDueStewardRoutine store rt wake checkId now).2.health = rt.health ∨
      (claimDueStewardRoutine store rt wake checkId now).2.health =
        (claimNextStewardRoutine store rt wake.projectId wake.stewardSessionId checkId
          now).2.health := by
  rw [claimDueStewardRoutine]
  iterate 2 (split; · exact .inl rfl)
  right
  split
  next claimed => rw [claimed]
  next claimed =>
    rw [claimed]
    dsimp only
    split <;> rfl

theorem react_shrinks (other : action.checkId = none) :
    Shrinks core.runtime (react core action) := by
  cases action with
  | claimRoutine | claimDue | claimStep => cases other
  | save | observe | nudge | scheduleNow | acknowledge => exact shrinks_of_same rfl
  | finishRoutine cap attentionMessage completedAt =>
    rw [react]
    split
    · exact finishRoutine_shrinks
    · exact List.Subperm.refl _
  | finishStep cap completedAt =>
    rw [react]
    split
    · exact finishStep_shrinks
    · exact List.Subperm.refl _
  | release cap => exact release_shrinks
  | postpone cap retryAt => exact postpone_shrinks
  | cancelRoutine rid | removeRoutine rid =>
    rw [Shrinks, slots_gather, slots_gather]
    exact (gather_erase_sublist _ _ rid).subperm
  | cancelTask rid tid =>
    have fewer : ∀ health : TrackerHealth,
        ({ health with checks := health.checks.filter fun check =>
          check.stepTaskId != some tid } : TrackerHealth).checks.Sublist health.checks :=
      fun health => filter_sublist
    exact shrinks_of_update fewer rfl
  | runNow rid tid now => exact runNow_shrinks
  | advance now => exact shrinks_of_advance advance_health
  | admitWakes now =>
    apply shrinks_of_same
    rw [react, TrackerCore.admitDueStewardWakes, admitted_health, initialize_health]
  | failDelivery wake retryAt =>
    apply shrinks_of_same
    rw [react, failStewardAssignmentDelivery]
    split <;> rfl
  | nextSchedule => exact shrinks_of_same initialize_health
  | retainCurrent =>
    rw [Shrinks, slots_gather, slots_gather]
    exact (gather_retain_sublist _ (fun rid _ => core.store.trackerConfigurations.any
      (·.id == rid)) core.runtime.health).subperm

theorem step_tidy {after : TrackerCore} (tidy : Tidy (slots core.runtime))
    (safe : SameSession core action) (step : Step core action after) :
    Tidy (slots after.runtime) := by
  obtain ⟨new,rfl⟩ := step
  have drawn : ∀ checkId, action.checkId = some checkId →
      checkId ∉ (slots core.runtime).map Slot.checkId := by
    intro checkId brought used
    rw [slots, map_map] at used
    obtain ⟨held,mem,same⟩ := mem_map.mp used
    exact new checkId brought held mem same
  cases brought : action.checkId with
  | none => exact tidy_of_subperm (react_shrinks brought) tidy
  | some checkId =>
    cases action with
    | claimRoutine pid sid id now =>
      exact claims_tidy tidy (drawn _ rfl) (claimNext_claims tidy safe rfl)
    | claimDue wake id now =>
      rcases claimDue_health with same | same
      · exact tidy_of_subperm (shrinks_of_same same) tidy
      have claimed := claims_tidy tidy (drawn _ rfl) (claimNext_claims tidy safe
        (rfl : claimNextStewardRoutine core.store core.runtime wake.projectId
          wake.stewardSessionId id now = _))
      exact tidy_of_subperm (shrinks_of_same same) claimed
    | claimStep pid id now => exact claimStep_tidy tidy (drawn _ rfl)
    | _ => cases brought

end Reacting

theorem empty_tidy : Tidy (slots .empty) :=
  ⟨fun _ => Nat.zero_le _,fun _ _ => Nat.zero_le _,fun _ => Nat.zero_le _,nodup_nil⟩

/-- Where no Steward asks for work while another Session holds a check of its Project,
    checks are exclusive, and a capability is for the Steward's only check, held by the asking
    Session. -/
theorem check_claims_are_exclusive {start core : TrackerCore} {actions : List Action}
    (idle : start.runtime = .empty) (run : Run (Guarded SameSession Step) start actions core) :
    Exclusive core.runtime ∧
      ∀ projectId sessionId checkId now claim capability after,
        NamesCaller core.runtime projectId sessionId →
        claimNextStewardRoutine core.store core.runtime projectId sessionId checkId now =
          (.ok claim, after) →
        claim.capability = some capability →
        ∃ check, stewardChecks after projectId = [(capability.trackerId, check)] ∧
          check.checkId = capability.checkId ∧ check.stewardSessionId = sessionId := by
  have begun : Tidy (slots start.runtime) := idle ▸ empty_tidy
  have tidy : Tidy (slots core.runtime) :=
    guarded_run_invariant (fun core => Tidy (slots core.runtime)) step_tidy run begun
  refine ⟨exclusive_of_tidy tidy,?_⟩
  intro projectId sessionId checkId now claim capability after named ran given
  exact claims_only tidy named (claimNext_claims tidy named ran) given

def hourlyRoutine (id : String) (updatedAt : Nat) : TrackerConfiguration :=
  { id := id, projectId := "p", triggerMode := .schedule, name := id, prompt := "Look around."
    stewardInstructions := "", enabled := true, scheduleIntervalSeconds := 3600, generation := 1
    contextMarkdown := "", contextRevision := 1, actionHandling := .off, updatedAt := updatedAt }

def twoRoutines (sessionId : String) : RoutineStore :=
  { trackerConfigurations := [hourlyRoutine "triage" 5, hourlyRoutine "digest" 6]
    stewardConfigurations :=
      [{ projectId := "p", enabled := true, generation := 1, executorSessionId := some sessionId }]
    playbookConfigurations := [], tasks := [], playbookStepProgress := []
    uniqueRoutines := by decide }

def idleCore : TrackerCore :=
  { store := twoRoutines "s1", agentStates := ∅, runtime := .empty }

def firstClaim : Action := .claimRoutine "p" "s1" "check-1" 10

theorem asking_again_keeps_one_check : Exclusive (perform idleCore firstClaim).runtime ∧
      ∃ claim capability after, claimNextStewardRoutine (perform idleCore firstClaim).store
          (perform idleCore firstClaim).runtime "p" "s1" "check-2" 11 = (.ok claim, after) ∧
        claim.capability = some capability ∧
        ∃ check, stewardChecks after "p" = [(capability.trackerId, check)] ∧
          check.checkId = capability.checkId ∧ check.stewardSessionId = "s1" := by
  have unheld : SameSession idleCore firstClaim := fun _ mine => absurd mine not_mem_nil
  have asked : Step idleCore firstClaim (perform idleCore firstClaim) := ⟨fun _ _ _ => nofun,rfl⟩
  have run : Run (Guarded SameSession Step) idleCore [firstClaim] (perform idleCore firstClaim) :=
    run_single ⟨unheld,asked⟩
  obtain ⟨exclusive,only⟩ := check_claims_are_exclusive rfl run
  have named : NamesCaller (perform idleCore firstClaim).runtime "p" "s1" := by
    unfold NamesCaller
    decide
  exact ⟨exclusive,_,_,_,rfl,rfl,only "p" "s1" "check-2" 11 _ _ _ named rfl rfl⟩

/-- A Steward is replaced while its Session holds a check; the new Session gets a second
    one. -/
theorem replaced_steward_holds_two_checks : ∃ core, Run Step idleCore
        [firstClaim, .save (twoRoutines "s2"), .claimRoutine "p" "s2" "check-2" 11] core ∧
      idleCore.runtime = .empty ∧ ¬ Exclusive core.runtime ∧
      (stewardChecks core.runtime "p").map (fun held => (held.1, held.2.stewardSessionId)) =
        [("digest", "s2"), ("triage", "s1")] := by
  let held := perform idleCore firstClaim
  let replaced := perform held (.save (twoRoutines "s2"))
  let second : Action := .claimRoutine "p" "s2" "check-2" 11
  have new : ∀ held ∈ replaced.runtime.checks, held.2.checkId ≠ "check-2" := by decide
  have asked : Step idleCore firstClaim held := ⟨fun _ _ _ => nofun,rfl⟩
  have saved : Step held (.save (twoRoutines "s2")) replaced := ⟨nofun,rfl⟩
  have again : Step replaced second (perform replaced second) := by
    refine ⟨?_,rfl⟩
    intro checkId brought
    cases brought
    exact new
  have two : (stewardChecks (perform replaced second).runtime "p").map
      (fun held => (held.1, held.2.stewardSessionId)) = [("digest", "s2"), ("triage", "s1")] := by
    decide
  refine ⟨_,Run.cons asked (Run.cons saved (run_single again)),rfl,fun exclusive => ?_,two⟩
  have few := exclusive.steward "p"
  rw [← length_map (fun held => (held.1, held.2.stewardSessionId)), two] at few
  exact absurd few (by decide)

end TermloopClaims
