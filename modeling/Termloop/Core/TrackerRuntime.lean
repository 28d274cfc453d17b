import Mathlib.Data.List.Sort
import Termloop.Core.Routines
import Termloop.Lib.KeyedTables

/-!
The part of the Core runtime that runs Routines: which checks are held, when each
Routine is due, and which Steward has been told that it has work. A scheduled
Routine is checked by the Project's Steward, one check at a time; a step of a
pipeline is checked by TermLoop itself, one Task a check. Nothing of this is
stored. Every call reads the stored records through its argument and changes only
the runtime; the ids of new checks are drawn outside.
-/
namespace TermloopTracker
open TermloopRecordLists TermloopSaturating TermloopKeyed TermloopText TermloopStore
open TermloopWorkflow
  TermloopRoutine

def checkDeadlineMaxMs : Nat := 10 * 60 * 1000
def overduePingGraceMs : Nat := 60 * 1000
def checkTimeoutRetryMs : Nat := 60 * 1000
def wakeRedeliveryMs : Nat := 60 * 1000
def routineScanOverlapMs : Nat := 5 * 60 * 1000
def projectStepChecksMax : Nat := 8

inductive CoreError where
  | capabilityDenied
  | invalidParams (field : String)
  | notFound | revisionConflict | playbookStepIdle | trackerReportStale | trackerReportInvalid
  | store (error : StoreError)

structure ActiveTrackerCheck where
  checkId : String
  /-- The question and the Task of a step check; a Steward's own check has neither. -/
  (stepMilestoneId stepTaskId : Option String)
  stepEvaluation : PlaybookStepEvaluator × Option PlaybookDeterministicFallback
  (generation claimedAt deadline : Nat)
  pingSent : Bool
  projectId : String
  stewardGeneration : Nat
  stewardSessionId : String
  deriving DecidableEq

structure TrackerHealth where
  checks : List ActiveTrackerCheck := []
  pendingTrigger : Bool := false
  attentionMessage : Option String := none

namespace TrackerHealth

def check (health : TrackerHealth) (checkId : String) : Option ActiveTrackerCheck :=
  health.checks.find? (·.checkId == checkId)

def checksTask (health : TrackerHealth) (taskId : String) : Bool :=
  health.checks.any fun check => check.stepTaskId == some taskId

def removeCheck (health : TrackerHealth) (checkId : String) : TrackerHealth :=
  { health with checks := health.checks.filter (·.checkId != checkId) }

end TrackerHealth

structure PendingStewardWake where
  stewardSessionId : String
  retryAt : Nat

/-- A request to run a step without its wait, for one Task or for whichever is next. -/
structure StepRunNow where
  requestedAt : Nat
  taskId : Option String

structure TrackerRuntimeState where
  health : AList fun _ : String => TrackerHealth
  reports : List TrackerReport
  nextDue : AList fun _ : String => Nat
  pendingStewardWakes : AList fun _ : String => PendingStewardWake
  stepRunNow : AList fun _ : String => StepRunNow
  stepTaskNotBefore : AList fun _ : String × String => Nat
  stepTaskNudge : AList fun _ : String × String => Nat

structure TrackerCheckCapability where
  (projectId trackerId checkId : String)
  (generation claimedAt deadline stewardGeneration : Nat)
  stewardSessionId : String

structure DueStewardWake where
  projectId : String
  stewardGeneration : Nat
  stewardSessionId : String

namespace TrackerRuntimeState

def empty : TrackerRuntimeState :=
  { health := ∅, reports := [], nextDue := ∅, pendingStewardWakes := ∅, stepRunNow := ∅,
    stepTaskNotBefore := ∅, stepTaskNudge := ∅ }

variable (runtime : TrackerRuntimeState)

def checks : List (String × ActiveTrackerCheck) :=
  gather (fun routineId health => health.checks.map fun check => (routineId, check)) runtime.health

def trackerIsActive (routineId : String) : Bool :=
  (runtime.health.lookup routineId).any fun health => !health.checks.isEmpty

def stepTaskIsChecked (routineId taskId : String) : Bool :=
  (runtime.health.lookup routineId).any fun health => health.checksTask taskId

def cancelTrackerCheck (routineId : String) : TrackerRuntimeState :=
  { runtime with
    health := runtime.health.erase routineId, nextDue := runtime.nextDue.erase routineId
    stepRunNow := runtime.stepRunNow.erase routineId
    stepTaskNotBefore := retain (fun key _ => key.1 != routineId) runtime.stepTaskNotBefore
    stepTaskNudge := retain (fun key _ => key.1 != routineId) runtime.stepTaskNudge }

def cancelStepTaskCheck (routineId taskId : String) : TrackerRuntimeState :=
  { runtime with
    health := update routineId (fun health =>
      { health with checks := health.checks.filter fun check => check.stepTaskId != some taskId })
      runtime.health
    stepTaskNotBefore := runtime.stepTaskNotBefore.erase (routineId, taskId)
    stepTaskNudge := runtime.stepTaskNudge.erase (routineId, taskId)
    stepRunNow :=
      if (runtime.stepRunNow.lookup routineId).any fun runNow => runNow.taskId == some taskId then
        runtime.stepRunNow.erase routineId
      else runtime.stepRunNow }

def removeTracker (routineId : String) : TrackerRuntimeState :=
  { runtime.cancelTrackerCheck routineId with
    reports := runtime.reports.filter (·.routineId != routineId) }

def scheduleTrackerNow (routineId : String) (now : Nat) : TrackerRuntimeState :=
  { runtime with nextDue := runtime.nextDue.insert routineId now }

def claimedCheck (capability : TrackerCheckCapability) : Option ActiveTrackerCheck :=
  (runtime.health.lookup capability.trackerId).bind fun health => health.check capability.checkId

def claimedStepMilestoneId (capability : TrackerCheckCapability) : Option String :=
  (runtime.claimedCheck capability).bind (·.stepMilestoneId)

def claimedStepTaskId (capability : TrackerCheckCapability) : Option String :=
  (runtime.claimedCheck capability).bind (·.stepTaskId)

def claimedStepEvaluation (capability : TrackerCheckCapability) :
    PlaybookStepEvaluator × Option PlaybookDeterministicFallback :=
  ((runtime.claimedCheck capability).map (·.stepEvaluation)).getD (.routine, none)

def stepRunNowTaskId (routineId : String) : Option String :=
  (runtime.stepRunNow.lookup routineId).bind (·.taskId)

def stepRetryNotBefore (routineId taskId : String) : Nat :=
  (runtime.stepTaskNotBefore.lookup (routineId, taskId)).getD 0

def stepNudge (routineId taskId : String) : Nat :=
  (runtime.stepTaskNudge.lookup (routineId, taskId)).getD u64Max

def stewardHeldCheckForProject (projectId : String) : Option (String × ActiveTrackerCheck) :=
  runtime.checks.find? fun held =>
    held.2.projectId == projectId && held.2.stepTaskId.isNone

def projectStepCheckCount (projectId : String) : Nat :=
  runtime.checks.countP fun held => held.2.projectId == projectId && held.2.stepTaskId.isSome

def busyProjectIds : List String :=
  (runtime.checks.filter (·.2.stepTaskId.isNone)).map (·.2.projectId)

end TrackerRuntimeState

def activeCapability (routineId : String) (active : ActiveTrackerCheck) : TrackerCheckCapability :=
  { projectId := active.projectId, trackerId := routineId, checkId := active.checkId,
    generation := active.generation, claimedAt := active.claimedAt, deadline := active.deadline,
    stewardGeneration := active.stewardGeneration, stewardSessionId := active.stewardSessionId }

structure PlaybookPassedStep where
  (milestoneId title evidence : String)
  decidedAt : Nat

structure PlaybookWaitingTask where
  (taskId title : String)
  dueAt : Nat
  lastEvidence : Option String
  passedEarlierSteps : List PlaybookPassedStep

/-- One question and the Task at it. The source's array always holds exactly one Task. -/
structure PlaybookStepAssignment where
  projectId : String
  milestone : PlaybookMilestone
  waiting : PlaybookWaitingTask
  dueAt : Nat

structure PipelineStanding where
  task : BoardTask
  position : PlaybookPosition
  answers : List PlaybookStepProgress

namespace PipelineStanding
variable (standing : PipelineStanding)

def answerFor (milestoneId : String) : Option PlaybookStepProgress :=
  standing.answers.find? (·.milestoneId == milestoneId)

def dueAt (milestoneId : String) : Nat :=
  ((standing.answerFor milestoneId).bind (·.nextAttemptAt)).getD 0

def passedEarlierSteps (milestones : List PlaybookMilestone) (index : Nat) :
    List PlaybookPassedStep :=
  (milestones.take index).filterMap fun milestone =>
    (standing.answerFor milestone.id).bind fun answer =>
      if answer.routineId == milestone.routineId && answer.verdict == .passed then
        some { milestoneId := milestone.id, title := milestone.title, evidence := answer.evidence,
               decidedAt := answer.decidedAt }
      else none

def question (playbook : PlaybookConfiguration) (routineId : String) :
    Option (Nat × PlaybookMilestone) :=
  match standing.position with
  | .done => none
  | .at index =>
    (playbook.milestones[index]?).bind fun milestone =>
      if milestone.routineId != routineId then none else some (index, milestone)

def assignment (playbook : PlaybookConfiguration) (index : Nat) (milestone : PlaybookMilestone)
    (due : Nat) : PlaybookStepAssignment :=
  { projectId := playbook.projectId, milestone := milestone
    waiting :=
      { taskId := standing.task.id, title := standing.task.title, dueAt := due
        lastEvidence := ((standing.answerFor milestone.id).map (·.evidence)).filter
          fun evidence => !evidence.isEmpty
        passedEarlierSteps := standing.passedEarlierSteps playbook.milestones index }
    dueAt := due }

end PipelineStanding

def pipelineStandings (store : RoutineStore) (playbook : PlaybookConfiguration) :
    List PipelineStanding :=
  (store.openTasks playbook.projectId).map fun task =>
    { task := task, position := pipelinePosition playbook.milestones (store.answersOf task.id)
      answers := store.answersOf task.id }

def playbookStepAssignmentForTask (store : RoutineStore) (routineId taskId : String) :
    Option PlaybookStepAssignment :=
  (store.routinePlaybook routineId).bind fun playbook =>
    ((pipelineStandings store playbook).find? (·.task.id == taskId)).bind
      fun standing =>
        (standing.question playbook routineId).map fun asked =>
          standing.assignment playbook asked.1 asked.2 (standing.dueAt asked.2.id)

/-- A Task at a question of the Routine that is not being checked, due by its own wait and
    nudge. -/
def stepCandidate (runtime : TrackerRuntimeState) (playbook : PlaybookConfiguration)
    (routineId : String) (standing : PipelineStanding) :
    Option ((Nat × Nat × String) × PlaybookStepAssignment) :=
  (standing.question playbook routineId).bind fun asked =>
    if runtime.stepTaskIsChecked routineId standing.task.id then none
    else
      let due := max (min (standing.dueAt asked.2.id)
        (runtime.stepNudge routineId standing.task.id))
        (runtime.stepRetryNotBefore routineId standing.task.id)
      some ((due, standing.task.rank, standing.task.id),
        standing.assignment playbook asked.1 asked.2 due)

def priorityBefore (left right : Nat × Nat × String) : Bool :=
  decide (left.1 < right.1)
    || left.1 == right.1 && (decide (left.2.1 < right.2.1)
      || left.2.1 == right.2.1 && decide (left.2.2 < right.2.2))

def playbookStepAssignment (store : RoutineStore) (runtime : TrackerRuntimeState)
    (routineId : String) : Option PlaybookStepAssignment :=
  match (runtime.stepRunNowTaskId routineId).filter fun taskId =>
      !runtime.stepTaskIsChecked routineId taskId with
  | some taskId => playbookStepAssignmentForTask store routineId taskId
  | none =>
    (store.routinePlaybook routineId).bind fun playbook =>
      (firstLeast (fun left right => priorityBefore left.1 right.1)
        ((pipelineStandings store playbook).filterMap
          (stepCandidate runtime playbook routineId))).map (·.2)

def playbookStepDue (store : RoutineStore) (runtime : TrackerRuntimeState) (routineId : String) :
    Option Nat :=
  (playbookStepAssignment store runtime routineId).map (·.dueAt)

def runNowTime (runtime : TrackerRuntimeState) (routineId : String) : Option Nat :=
  ((runtime.stepRunNow.lookup routineId).filter fun runNow =>
    runNow.taskId.all fun taskId => !runtime.stepTaskIsChecked routineId taskId).map (·.requestedAt)

def scheduleRoutine (store : RoutineStore) (runtime : TrackerRuntimeState)
    (routine : TrackerConfiguration) : TrackerRuntimeState :=
  if routine.triggerMode.isScheduled then
    match runtime.nextDue.lookup routine.id with
    | some _ => runtime
    | none => { runtime with nextDue := runtime.nextDue.insert routine.id (routineNextDue routine) }
  else
    match playbookStepDue store runtime routine.id with
    | some due =>
      let next := match runNowTime runtime routine.id with
        | some requestedAt => min requestedAt due
        | none => due
      { runtime with nextDue := runtime.nextDue.insert routine.id next }
    -- No unchecked Task waits here, so an override has nothing to run and is dropped.
    | none =>
      { runtime with
        nextDue := runtime.nextDue.erase routine.id
        stepRunNow := runtime.stepRunNow.erase routine.id }

def enabledRoutines (store : RoutineStore) : List TrackerConfiguration :=
  store.trackerConfigurations.filter (·.enabled)

def initializeRoutineSchedules (store : RoutineStore) (runtime : TrackerRuntimeState) :
    TrackerRuntimeState :=
  (enabledRoutines store).foldl (scheduleRoutine store)
    { runtime with
      nextDue := retain (fun routineId _ =>
        (enabledRoutines store).any (·.id == routineId)) runtime.nextDue }

/-- The Routine of a capability whose check is still held and whose Steward is still the
    current one. -/
def validateCurrentCheck (store : RoutineStore) (runtime : TrackerRuntimeState)
    (capability : TrackerCheckCapability) (completedAt : Nat) :
    Except CoreError TrackerConfiguration :=
  match store.routine? capability.trackerId, runtime.claimedCheck capability with
  | some configuration, some active =>
    let stewardCurrent :=
      if active.stepTaskId.isSome then store.playbookAutomationEnabled capability.projectId
      else store.stewardConfigurations.any fun steward =>
        steward.projectId == capability.projectId && steward.enabled
          && steward.generation == capability.stewardGeneration
          && steward.executorSessionId == some capability.stewardSessionId
    if !configuration.enabled
        || configuration.projectId != capability.projectId
        || configuration.generation != capability.generation
        || active.checkId != capability.checkId
        || active.generation != capability.generation
        || active.claimedAt != capability.claimedAt
        || active.projectId != capability.projectId
        || active.stewardGeneration != capability.stewardGeneration
        || active.stewardSessionId != capability.stewardSessionId
        || decide (saturatingAdd active.deadline overduePingGraceMs < completedAt)
        || !stewardCurrent then
      .error .trackerReportStale
    else .ok configuration
  | _, _ => .error .trackerReportStale

/-- Takes the check out; a trigger meanwhile makes the Routine due at once. Validation has
    just found the check. -/
def finishRuntimeCheck (runtime : TrackerRuntimeState) (capability : TrackerCheckCapability)
    (attentionMessage : Option String) (completedAt scheduleIntervalSeconds : Nat) :
    Bool × TrackerRuntimeState :=
  let pendingTrigger := (runtime.health.lookup capability.trackerId).any (·.pendingTrigger)
  let nextDue :=
    if pendingTrigger then completedAt
    else saturatingAdd completedAt (saturatingMul scheduleIntervalSeconds 1000)
  (pendingTrigger,
    { runtime with
      health := update capability.trackerId (fun health =>
        { health.removeCheck capability.checkId with
          attentionMessage := attentionMessage
          pendingTrigger := false }) runtime.health
      nextDue := runtime.nextDue.insert capability.trackerId nextDue })

/-- A "Run now" lasts one run: the run of its Task, or the next one when it named none. -/
def endStepRunNow (runtime : TrackerRuntimeState) (routineId taskId : String) :
    TrackerRuntimeState :=
  if (runtime.stepRunNow.lookup routineId).any fun runNow =>
      runNow.taskId.all fun id => id == taskId then
    { runtime with stepRunNow := runtime.stepRunNow.erase routineId }
  else runtime

def claimedStepMilestone (store : RoutineStore) (runtime : TrackerRuntimeState)
    (capability : TrackerCheckCapability) : Option PlaybookMilestone :=
  (runtime.claimedStepMilestoneId capability).bind fun milestoneId =>
    (store.routinePlaybook capability.trackerId).bind fun playbook =>
      playbook.milestones.find? (·.id == milestoneId)

def finishStewardRoutineCheck (store : RoutineStore) (runtime : TrackerRuntimeState)
    (capability : TrackerCheckCapability) (attentionMessage : Option String) (completedAt : Nat)
    (configuration : TrackerConfiguration) : Bool × TrackerRuntimeState :=
  let waiting :=
    match runtime.claimedStepTaskId capability with
    | some taskId =>
      if configuration.triggerMode.isScheduled then runtime
      else
        let retryDelaySeconds :=
          ((claimedStepMilestone store runtime capability).map
            (·.retryDelaySeconds)).getD playbookRetryDelayMinSeconds
        let ended := endStepRunNow runtime capability.trackerId taskId
        { ended with
          stepTaskNotBefore := ended.stepTaskNotBefore.insert (capability.trackerId, taskId)
            (saturatingAdd completedAt (saturatingMul retryDelaySeconds 1000)) }
    | none => runtime
  finishRuntimeCheck waiting capability attentionMessage completedAt
    configuration.scheduleIntervalSeconds

def finishStewardStepCheck (runtime : TrackerRuntimeState) (capability : TrackerCheckCapability)
    (completedAt : Nat) (configuration : TrackerConfiguration) : Bool × TrackerRuntimeState :=
  let ended :=
    match runtime.claimedStepTaskId capability with
    | some taskId =>
      let ended := endStepRunNow runtime capability.trackerId taskId
      { ended with
        stepTaskNotBefore := ended.stepTaskNotBefore.erase (capability.trackerId, taskId) }
    | none => runtime
  finishRuntimeCheck ended capability none completedAt configuration.scheduleIntervalSeconds

def ActiveTrackerCheck.pinged (now : Nat) (active : ActiveTrackerCheck) : ActiveTrackerCheck :=
  { active with pingSent := active.pingSent || decide (active.deadline ≤ now) }

def ActiveTrackerCheck.overdue (now : Nat) (active : ActiveTrackerCheck) : Bool :=
  active.pingSent && decide (saturatingAdd active.deadline overduePingGraceMs ≤ now)

/-- Pings what is past its deadline and drops what was not answered after that. -/
def TrackerHealth.advance (now : Nat) (health : TrackerHealth) : TrackerHealth :=
  let pinged := health.checks.map (ActiveTrackerCheck.pinged now)
  let kept := pinged.filter fun active => !active.overdue now
  { health with
    checks := kept
    pendingTrigger := if kept.length = pinged.length then health.pendingTrigger else false }

def expiredChecks (runtime : TrackerRuntimeState) (now : Nat) : List (String × Option String) :=
  gather (fun routineId health =>
    ((health.checks.map (ActiveTrackerCheck.pinged now)).filter fun active =>
      active.overdue now).map fun active => (routineId, active.stepTaskId)) runtime.health

/-- An expired step check holds back only its Task, another one its Routine. -/
def postponeExpired (retryAt : Nat) (runtime : TrackerRuntimeState)
    (expired : String × Option String) : TrackerRuntimeState :=
  match expired.2 with
  | some taskId =>
    { runtime with
      stepTaskNotBefore := runtime.stepTaskNotBefore.insert (expired.1, taskId) retryAt }
  | none => { runtime with nextDue := runtime.nextDue.insert expired.1 retryAt }

def advanceTrackerDeadlines (runtime : TrackerRuntimeState) (now : Nat) :
    Bool × TrackerRuntimeState :=
  let changed := runtime.checks.any fun held =>
    held.2.pinged now != held.2 || (held.2.pinged now).overdue now
  (changed,
    (expiredChecks runtime now).foldl (postponeExpired (saturatingAdd now checkTimeoutRetryMs))
      { runtime with
        health := mapValues (fun _ health => health.advance now) runtime.health })

def nextTrackerDeadline (runtime : TrackerRuntimeState) : Option Nat :=
  (runtime.checks.map fun held =>
    if held.2.pingSent then saturatingAdd held.2.deadline overduePingGraceMs
    else held.2.deadline).min?

/-- The capability still describes the check, session and deadline included. -/
def matchesClaim (capability : TrackerCheckCapability) (active : ActiveTrackerCheck) : Bool :=
  active.generation == capability.generation
    && active.claimedAt == capability.claimedAt
    && active.deadline == capability.deadline
    && active.projectId == capability.projectId
    && active.stewardGeneration == capability.stewardGeneration
    && active.stewardSessionId == capability.stewardSessionId

def releaseStewardRoutineClaim (runtime : TrackerRuntimeState)
    (capability : TrackerCheckCapability) : Bool × TrackerRuntimeState :=
  match (runtime.claimedCheck capability).filter (matchesClaim capability) with
  | none => (false, runtime)
  | some active =>
    let removed :=
      { runtime with
        health := update capability.trackerId (fun health =>
          health.removeCheck capability.checkId) runtime.health }
    match active.stepTaskId with
    | some taskId =>
      (true,
        { removed with
          stepTaskNotBefore := removed.stepTaskNotBefore.erase (capability.trackerId, taskId) })
    | none =>
      (true,
        { removed with
          nextDue := removed.nextDue.insert capability.trackerId capability.claimedAt })

def postponePlaybookStep (runtime : TrackerRuntimeState) (capability : TrackerCheckCapability)
    (retryAt : Nat) : TrackerRuntimeState :=
  match releaseStewardRoutineClaim runtime capability, runtime.claimedStepTaskId capability with
  | (true, released), some taskId =>
    { released with
      stepTaskNotBefore := released.stepTaskNotBefore.insert (capability.trackerId, taskId) retryAt }
  | (_, released), _ => released

def stewardAssignmentIsCurrent (store : RoutineStore) (runtime : TrackerRuntimeState)
    (wake : DueStewardWake) : Bool :=
  (store.stewardConfigurations.any fun steward =>
    steward.projectId == wake.projectId && steward.enabled
      && steward.generation == wake.stewardGeneration
      && steward.executorSessionId == some wake.stewardSessionId)
  && (runtime.pendingStewardWakes.lookup wake.projectId).any
    (·.stewardSessionId == wake.stewardSessionId)

def failStewardAssignmentDelivery (store : RoutineStore) (runtime : TrackerRuntimeState)
    (wake : DueStewardWake) (retryAt : Nat) : TrackerRuntimeState :=
  if stewardAssignmentIsCurrent store runtime wake then
    { runtime with
      pendingStewardWakes := update wake.projectId (fun pending => { pending with retryAt := retryAt })
        runtime.pendingStewardWakes }
  else runtime

def acknowledgeStewardAssignmentDelivery (runtime : TrackerRuntimeState) (wake : DueStewardWake) :
    TrackerRuntimeState :=
  { runtime with pendingStewardWakes := runtime.pendingStewardWakes.erase wake.projectId }

def retainCurrentTrackerRuntime (store : RoutineStore) (runtime : TrackerRuntimeState) :
    TrackerRuntimeState :=
  let stored := fun routineId =>
    store.trackerConfigurations.any (·.id == routineId)
  { health := retain (fun routineId _ => stored routineId) runtime.health
    reports := runtime.reports.filter fun report => stored report.routineId
    nextDue := retain (fun routineId _ => stored routineId) runtime.nextDue
    stepRunNow := retain (fun routineId _ => stored routineId) runtime.stepRunNow
    stepTaskNotBefore := retain (fun key _ => stored key.1) runtime.stepTaskNotBefore
    stepTaskNudge := retain (fun key _ => stored key.1) runtime.stepTaskNudge
    pendingStewardWakes := retain (fun projectId _ =>
      store.stewardConfigurations.any (·.projectId == projectId))
      runtime.pendingStewardWakes }

structure AssignedRoutine where
  (checkId routineId name instructions : String)
  (scheduleIntervalSeconds contextRevision : Nat)
  contextMarkdown : String
  scanSince : Nat
  lastFinishedAt : Option Nat
  (recentSourceKeys relatedTaskIds : List String)
  (claimedAt leaseExpiresAt : Nat)
  step : Option PlaybookStepAssignment

inductive ClaimResult where
  | idle (nextWakeAt : Option Nat)
  | assigned (routine : AssignedRoutine)

structure StewardRoutineClaim where
  capability : Option TrackerCheckCapability
  result : ClaimResult

def assignedRoutineResult (routine : TrackerConfiguration) (capability : TrackerCheckCapability)
    (now : Nat) (step : Option PlaybookStepAssignment) : ClaimResult :=
  .assigned
    { checkId := capability.checkId, routineId := routine.id, name := routine.name
      instructions := routine.prompt, scheduleIntervalSeconds := routine.scheduleIntervalSeconds
      contextRevision := routine.contextRevision, contextMarkdown := routine.contextMarkdown
      scanSince :=
        match routine.lastCheckStartedAt with
        | none => now - saturatingMul routine.scheduleIntervalSeconds 1000
        | some previous => previous - routineScanOverlapMs
      lastFinishedAt := routine.lastAttemptAt, recentSourceKeys := routine.recentSourceKeys
      relatedTaskIds := routine.relatedTaskIds, claimedAt := capability.claimedAt
      leaseExpiresAt := capability.deadline, step := step }

def newCheck (capability : TrackerCheckCapability) (step : Option PlaybookStepAssignment) :
    ActiveTrackerCheck :=
  { checkId := capability.checkId, stepMilestoneId := step.map (·.milestone.id)
    stepTaskId := step.map (·.waiting.taskId), stepEvaluation := (.routine, none)
    generation := capability.generation, claimedAt := capability.claimedAt
    deadline := capability.deadline, pingSent := false, projectId := capability.projectId
    stewardGeneration := capability.stewardGeneration
    stewardSessionId := capability.stewardSessionId }

def holdRoutineCheck (runtime : TrackerRuntimeState) (routineId : String)
    (capability : TrackerCheckCapability) (step : Option PlaybookStepAssignment) :
    TrackerRuntimeState :=
  let health := (runtime.health.lookup routineId).getD {}
  { runtime with
    health := runtime.health.insert routineId
      { health with checks := health.checks ++ [newCheck capability step] }
    stepTaskNudge :=
      match step with
      | some assignment => runtime.stepTaskNudge.erase (routineId, assignment.waiting.taskId)
      | none => runtime.stepTaskNudge }

def checkIdIsInvalid (checkId : String) : Bool :=
  isBlank checkId || decide (128 < checkId.utf8ByteSize)

def readyRoutines (store : RoutineStore) (runtime : TrackerRuntimeState) (projectId : String)
    (now : Nat) : List (Nat × TrackerConfiguration) :=
  (store.scheduledRoutines projectId).filterMap fun routine =>
    if runtime.trackerIsActive routine.id then none
    else (runtime.nextDue.lookup routine.id).bind fun due =>
      if due ≤ now then some (due, routine) else none

def dueBefore (left right : Nat × TrackerConfiguration) : Bool :=
  decide (left.1 < right.1) || left.1 == right.1 && decide (left.2.id < right.2.id)

/-- Picks the Routine that has been due longest, once the Steward holds no check. -/
def claimReadyRoutine (store : RoutineStore) (runtime : TrackerRuntimeState)
    (steward : StewardConfiguration) (projectId sessionId checkId : String) (now : Nat) :
    Except CoreError StewardRoutineClaim × TrackerRuntimeState :=
  let runtime := initializeRoutineSchedules store runtime
  match firstLeast dueBefore (readyRoutines store runtime projectId now) with
  | none =>
    (.ok { capability := none
           result := .idle ((store.scheduledRoutines projectId).filterMap fun routine =>
             runtime.nextDue.lookup routine.id).min? }, runtime)
  | some (_, routine) =>
    if checkIdIsInvalid checkId then (.error (.invalidParams "checkId"), runtime)
    else
      let capability : TrackerCheckCapability :=
        { projectId := projectId, trackerId := routine.id, checkId := checkId,
          generation := routine.generation, claimedAt := now,
          deadline := saturatingAdd now checkDeadlineMaxMs,
          stewardGeneration := steward.generation, stewardSessionId := sessionId }
      (.ok { capability := some capability
             result := assignedRoutineResult routine capability now none },
        holdRoutineCheck runtime routine.id capability none)

def claimNextStewardRoutine (store : RoutineStore) (runtime : TrackerRuntimeState)
    (projectId sessionId checkId : String) (now : Nat) :
    Except CoreError StewardRoutineClaim × TrackerRuntimeState :=
  match store.currentSteward projectId sessionId with
  | none => (.error .capabilityDenied, runtime)
  | some steward =>
    let runtime :=
      { runtime with pendingStewardWakes := runtime.pendingStewardWakes.erase projectId }
    match runtime.stewardHeldCheckForProject projectId with
    | none => claimReadyRoutine store runtime steward projectId sessionId checkId now
    | some (routineId, active) =>
      -- The capability names the calling Session, whoever the check was handed to.
      let capability :=
        { activeCapability routineId active with stewardSessionId := sessionId }
      match validateCurrentCheck store runtime capability now with
      | .ok routine =>
        if routine.triggerMode.isScheduled then
          (.ok { capability := some capability
                 result := assignedRoutineResult routine capability now none }, runtime)
        else
          claimReadyRoutine store (releaseStewardRoutineClaim runtime capability).2 steward
            projectId sessionId checkId now
      | .error _ =>
        claimReadyRoutine store (releaseStewardRoutineClaim runtime capability).2 steward
          projectId sessionId checkId now

/-- Claims before the wake is delivered; the pending wake stays until delivery succeeds. -/
def claimDueStewardRoutine (store : RoutineStore) (runtime : TrackerRuntimeState)
    (wake : DueStewardWake) (checkId : String) (now : Nat) :
    Except CoreError StewardRoutineClaim × TrackerRuntimeState :=
  if !stewardAssignmentIsCurrent store runtime wake then (.error .trackerReportStale, runtime)
  else
    match runtime.pendingStewardWakes.lookup wake.projectId with
    | none => (.error .trackerReportStale, runtime)
    | some pending =>
      match claimNextStewardRoutine store runtime wake.projectId wake.stewardSessionId checkId
          now with
      | (.error error, after) => (.error error, after)
      | (.ok claim, after) =>
        (.ok claim,
          if claim.capability.isSome then
            { after with
              pendingStewardWakes := after.pendingStewardWakes.insert wake.projectId pending }
          else after)

def stepOrder (left right : Bool × Nat × TrackerConfiguration) : Bool :=
  decide (left.1 < right.1)
    || left.1 == right.1 && (decide (left.2.1 < right.2.1)
      || left.2.1 == right.2.1 && decide (left.2.2.id ≤ right.2.2.id))

def dueStep (runtime : TrackerRuntimeState) (projectId : String) (now : Nat)
    (routine : TrackerConfiguration) : Option (Bool × Nat × TrackerConfiguration) :=
  if routine.enabled && routine.projectId == projectId && !routine.triggerMode.isScheduled then
    (runtime.nextDue.lookup routine.id).bind fun due =>
      if due ≤ now then some (!(runtime.stepRunNow.lookup routine.id).isSome, due, routine)
      else none
  else none

def dueStepRoutines (store : RoutineStore) (runtime : TrackerRuntimeState) (projectId : String)
    (now : Nat) : List TrackerConfiguration :=
  ((store.trackerConfigurations.filterMap (dueStep runtime projectId now)).insertionSort
    fun left right => stepOrder left right = true).map (·.2.2)

/-- "Run now" lifts the wait of the next Task. An unnamed request takes this Task for its
    own. -/
def overridesWait (runtime : TrackerRuntimeState) (routineId taskId : String) :
    Bool × TrackerRuntimeState :=
  match runtime.stepRunNow.lookup routineId with
  | none => (false, runtime)
  | some runNow =>
    match runNow.taskId with
    | none =>
      (true,
        { runtime with
          stepRunNow := runtime.stepRunNow.insert routineId { runNow with taskId := some taskId } })
    | some named => (named == taskId, runtime)

def stepCapability (steward : StewardConfiguration) (projectId : String)
    (routine : TrackerConfiguration) (checkId : String) (now : Nat) : TrackerCheckCapability :=
  { projectId := projectId, trackerId := routine.id, checkId := checkId,
    generation := routine.generation, claimedAt := now,
    deadline := saturatingAdd now checkDeadlineMaxMs,
    stewardGeneration := steward.generation,
    stewardSessionId := steward.executorSessionId.getD "" }

def claimFirstStep (store : RoutineStore) (runtime : TrackerRuntimeState)
    (steward : StewardConfiguration) (projectId checkId : String) (now : Nat) :
    List TrackerConfiguration → Option (StewardRoutineClaim × TrackerRuntimeState)
  | [] => none
  | routine :: rest =>
    match playbookStepAssignment store runtime routine.id with
    | none => claimFirstStep store runtime steward projectId checkId now rest
    | some step =>
      let lifted := overridesWait runtime routine.id step.waiting.taskId
      if !lifted.1 && decide (now < step.dueAt) then
        claimFirstStep store runtime steward projectId checkId now rest
      else
        let capability := stepCapability steward projectId routine checkId now
        some
          ({ capability := some capability
             result := assignedRoutineResult routine capability now (some step) },
            holdRoutineCheck lifted.2 routine.id capability (some step))

def claimNextPlaybookStep (store : RoutineStore) (runtime : TrackerRuntimeState)
    (projectId checkId : String) (now : Nat) :
    Except CoreError (Option StewardRoutineClaim) × TrackerRuntimeState :=
  if checkIdIsInvalid checkId then (.error (.invalidParams "checkId"), runtime)
  else
    match store.playbookSteward projectId with
    | none => (.ok none, runtime)
    | some steward =>
      let runtime := initializeRoutineSchedules store runtime
      if projectStepChecksMax ≤ runtime.projectStepCheckCount projectId then (.ok none, runtime)
      else
        match claimFirstStep store runtime steward projectId checkId now
            (dueStepRoutines store runtime projectId now) with
        | some (claim, held) => (.ok (some claim), held)
        | none => (.ok none, runtime)

inductive AgentState where
  | unknown | working | awaitingInput | idle | compacting | failed | interrupted | exited

def turnIsRunning : AgentState → Bool
  | .working | .compacting => true
  | _ => false

structure TrackerCore where
  store : RoutineStore
  agentStates : AList fun _ : String => AgentState
  runtime : TrackerRuntimeState

namespace TrackerCore
variable (core : TrackerCore)

def sessionTurnIsRunning (sessionId : String) : Bool :=
  (core.agentStates.lookup sessionId).any turnIsRunning

def hasDueAssignment (projectId : String) (now : Nat) : Bool :=
  (core.store.scheduledRoutines projectId).any fun routine =>
    (core.runtime.nextDue.lookup routine.id).any fun due => decide (due ≤ now)

def admitStewardWake (busyProjects : List String) (now : Nat) (wakes : List DueStewardWake)
    (steward : StewardConfiguration) : List DueStewardWake × TrackerRuntimeState :=
  match steward.executorSessionId with
  | none => (wakes, core.runtime)
  | some sessionId =>
    if busyProjects.contains steward.projectId || !core.hasDueAssignment steward.projectId now
        || core.sessionTurnIsRunning sessionId then
      (wakes, core.runtime)
    else if (core.runtime.pendingStewardWakes.lookup steward.projectId).any fun pending =>
        pending.stewardSessionId == sessionId && decide (now < pending.retryAt) then
      (wakes, core.runtime)
    else
      (wakes ++ [{ projectId := steward.projectId, stewardGeneration := steward.generation,
                   stewardSessionId := sessionId }],
        { core.runtime with
          pendingStewardWakes := core.runtime.pendingStewardWakes.insert steward.projectId
            { stewardSessionId := sessionId
              retryAt := saturatingAdd now wakeRedeliveryMs } })

def enabledStewards (store : RoutineStore) : List StewardConfiguration :=
  store.stewardConfigurations.filter (·.enabled)

def admitDueStewardWakes (now : Nat) : List DueStewardWake × TrackerRuntimeState :=
  let runtime := initializeRoutineSchedules core.store core.runtime
  let busyProjects := runtime.busyProjectIds
  (enabledStewards core.store).foldl (fun admitted steward =>
    { core with runtime := admitted.2 }.admitStewardWake busyProjects now admitted.1 steward)
    ([], runtime)

def stewardWakeTime (busyProjects : List String) (steward : StewardConfiguration) : Option Nat :=
  steward.executorSessionId.bind fun sessionId =>
    if busyProjects.contains steward.projectId || core.sessionTurnIsRunning sessionId then none
    else
      ((core.runtime.pendingStewardWakes.lookup steward.projectId).map (·.retryAt)).or
        ((core.store.scheduledRoutines steward.projectId).filterMap fun routine =>
          core.runtime.nextDue.lookup routine.id).min?

def nextStewardWake : Option Nat :=
  ((enabledStewards core.store).filterMap
    (core.stewardWakeTime core.runtime.busyProjectIds)).min?

def nextPlaybookStep : Option Nat :=
  (core.store.trackerConfigurations.filterMap fun routine =>
    if routine.enabled && !routine.triggerMode.isScheduled
        && core.store.playbookAutomationEnabled routine.projectId
        && decide (core.runtime.projectStepCheckCount routine.projectId < projectStepChecksMax) then
      core.runtime.nextDue.lookup routine.id
    else none).min?

def nextTrackerSchedule : Option Nat × TrackerRuntimeState :=
  let core := { core with runtime := initializeRoutineSchedules core.store core.runtime }
  (match core.nextPlaybookStep, core.nextStewardWake with
    | some left, some right => some (min left right)
    | left, right => left.or right, core.runtime)

end TrackerCore

/-- An id as the platform draws it: sixteen random bytes, written as hexadecimal digits. -/
structure OpaqueId where
  text : String
  usable : checkIdIsInvalid text = false

/-- Claims steps of one Project until none is left. `ids` gives the id drawn after so many
    claims; the fuel exceeds the slots. -/
def claimSteps (store : RoutineStore) (ids : Nat → OpaqueId) (projectId : String) (now : Nat) :
    Nat → List StewardRoutineClaim × TrackerRuntimeState →
      List StewardRoutineClaim × TrackerRuntimeState
  | 0, claimed => claimed
  | fuel + 1, claimed =>
    match claimNextPlaybookStep store claimed.2 projectId (ids claimed.1.length).text now with
    | (.ok (some claim), runtime) =>
      claimSteps store ids projectId now fuel (claimed.1 ++ [claim], runtime)
    | (_, runtime) => (claimed.1, runtime)

def admitDuePlaybookSteps (store : RoutineStore) (runtime : TrackerRuntimeState)
    (ids : Nat → OpaqueId) (now : Nat) : List StewardRoutineClaim × TrackerRuntimeState :=
  ((TrackerCore.enabledStewards store).map (·.projectId)).foldl
    (fun claimed projectId =>
      claimSteps store ids projectId now (projectStepChecksMax + 1) claimed) ([], runtime)

def stepHasWork (store : RoutineStore) (runtime : TrackerRuntimeState) (routineId : String) :
    Option String → Bool
  | none => (playbookStepDue store runtime routineId).isSome
  | some taskId => (playbookStepAssignmentForTask store routineId taskId).isSome

/-- "Run now" lifts the named Task's own wait, or every waiting Task's when none is named. -/
def requestStepRun (runtime : TrackerRuntimeState) (routineId : String) (taskId : Option String)
    (now : Nat) : TrackerRuntimeState :=
  { runtime with
    stepRunNow := runtime.stepRunNow.insert routineId { requestedAt := now, taskId := taskId }
    stepTaskNotBefore :=
      match taskId with
      | some taskId => runtime.stepTaskNotBefore.erase (routineId, taskId)
      | none => retain (fun key _ => key.1 != routineId) runtime.stepTaskNotBefore }

def triggerActive (runtime : TrackerRuntimeState) (routineId : String) : TrackerRuntimeState :=
  if runtime.trackerIsActive routineId then
    { runtime with
      health := update routineId (fun health => { health with pendingTrigger := true })
        runtime.health }
  else runtime

def requestRun (runtime : TrackerRuntimeState) (routine : TrackerConfiguration)
    (taskId : Option String) (now : Nat) : TrackerRuntimeState :=
  let scheduled := runtime.scheduleTrackerNow routine.id now
  let requested :=
    if routine.triggerMode.isScheduled then triggerActive scheduled routine.id
    else requestStepRun scheduled routine.id taskId now
  { requested with
    pendingStewardWakes := update routine.projectId
      (fun pending => { pending with retryAt := now }) requested.pendingStewardWakes }

/-- Runs a Routine without its wait; on a step, for one Task or for whichever is next. -/
def runRoutineNowTarget (store : RoutineStore) (runtime : TrackerRuntimeState)
    (routineId : String) (taskId : Option String) (now : Nat) :
    Except CoreError Bool × TrackerRuntimeState :=
  match store.routine? routineId with
  | none => (.error .notFound, runtime)
  | some routine =>
    let onDemand := !routine.triggerMode.isScheduled
    if !routine.enabled then (.error .trackerReportStale, runtime)
    else if taskId.isSome && !onDemand then (.error (.invalidParams "taskId"), runtime)
    else if taskId.any fun taskId => runtime.stepTaskIsChecked routineId taskId then
      (.ok false, runtime)
    else if onDemand && !stepHasWork store runtime routineId taskId then
      (.error .playbookStepIdle, runtime)
    else
      let alreadyPending := (!onDemand && runtime.trackerIsActive routineId)
        || (runtime.nextDue.lookup routineId).any fun due => decide (due ≤ now)
      (.ok !alreadyPending, requestRun runtime routine taskId now)

end TermloopTracker
