import Termloop.Core.Workflow

/-!
Routines, Stewards and delivery pipelines as the store keeps them. A scheduled
Routine runs on its own cadence; an on-demand Routine answers one question of a
pipeline for one Task at a time. Where a Task stands on its pipeline is not
stored: it is read off from the answers that are.
-/
namespace TermloopRoutine
open TermloopStore TermloopWorkflow TermloopSaturating TermloopText

def trackerNameMaxBytes : Nat := 80
def trackerPromptMaxBytes : Nat := 9 * 1024
def trackerScheduleMinSeconds : Nat := 60
def trackerScheduleMaxSeconds : Nat := 24 * 60 * 60
def trackerReportMaxBytes : Nat := 48 * 1024
def trackerReportSourceRefsMax : Nat := 16
def trackerReportSourceRefMaxBytes : Nat := 512
def trackerReportsPerProjectMax : Nat := 128
def routineContextMaxBytes : Nat := 32 * 1024
def routineRecentSourceKeysMax : Nat := 128
def routineSourceKeyMaxBytes : Nat := 256
def routineRelatedTasksMax : Nat := 16
def routinePendingFindingsMax : Nat := 16
def routineFindingSummaryMaxBytes : Nat := 4 * 1024
def routineFindingEvidenceMaxBytes : Nat := 2 * 1024
def companionIdMaxBytes : Nat := 256
def playbookEvidenceMaxBytes : Nat := 600
def playbookRetryDelayMinSeconds : Nat := 60

inductive RoutineTriggerMode where
  | schedule | onDemand
  deriving DecidableEq

def RoutineTriggerMode.isScheduled : RoutineTriggerMode → Bool
  | .schedule => true
  | .onDemand => false

inductive RoutineActionHandling where
  | off | ask | auto
  deriving DecidableEq

structure PendingRoutineFinding where
  (id sourceKey : String)
  routineGeneration : Nat
  (summary evidence : String)
  (sourceReferences relatedTaskIds : List String)
  createdAt : Nat
  deriving DecidableEq

structure TrackerConfiguration where
  (id projectId : String)
  triggerMode : RoutineTriggerMode
  (name prompt stewardInstructions : String)
  enabled : Bool
  (scheduleIntervalSeconds generation : Nat)
  contextMarkdown : String
  contextRevision : Nat
  (recentSourceKeys relatedTaskIds : List String := [])
  actionHandling : RoutineActionHandling
  pendingRoutineFindings : List PendingRoutineFinding := []
  (lastCheckStartedAt lastAttemptAt lastSuccessfulReportAt : Option Nat := none)
  updatedAt : Nat
  deriving DecidableEq

def boundedUniqueValues (values : List String) (maxItems maxBytes : Nat) : Bool :=
  decide (values.length ≤ maxItems)
    && !TermloopRecordLists.anyWithLater
      (fun value later =>
        isBlank value || !decide (value.utf8ByteSize ≤ maxBytes) || later.contains value)
      values

def PendingRoutineFinding.isValid (finding : PendingRoutineFinding) : Bool :=
  !isBlank finding.id
    && decide (finding.id.utf8ByteSize ≤ companionIdMaxBytes)
    && !isBlank finding.sourceKey
    && decide (finding.sourceKey.utf8ByteSize ≤ routineSourceKeyMaxBytes)
    && decide (0 < finding.routineGeneration)
    && !isBlank finding.summary
    && decide (finding.summary.utf8ByteSize ≤ routineFindingSummaryMaxBytes)
    && !isBlank finding.evidence
    && decide (finding.evidence.utf8ByteSize ≤ routineFindingEvidenceMaxBytes)
    && boundedUniqueValues finding.sourceReferences trackerReportSourceRefsMax
      trackerReportSourceRefMaxBytes
    && boundedUniqueValues finding.relatedTaskIds routineRelatedTasksMax companionIdMaxBytes
    && decide (0 < finding.createdAt)

def TrackerConfiguration.isValid (configuration : TrackerConfiguration) : Bool :=
  !isBlank configuration.id
    && !isBlank configuration.projectId
    && !isBlank configuration.name
    && decide (configuration.name.utf8ByteSize ≤ trackerNameMaxBytes)
    && !isBlank configuration.prompt
    && decide (configuration.prompt.utf8ByteSize ≤ trackerPromptMaxBytes)
    && decide (configuration.stewardInstructions.utf8ByteSize ≤ trackerPromptMaxBytes)
    && decide (configuration.contextMarkdown.utf8ByteSize ≤ routineContextMaxBytes)
    && decide (0 < configuration.contextRevision)
    && boundedUniqueValues configuration.recentSourceKeys routineRecentSourceKeysMax
      routineSourceKeyMaxBytes
    && boundedUniqueValues configuration.relatedTaskIds routineRelatedTasksMax companionIdMaxBytes
    && decide (configuration.pendingRoutineFindings.length ≤ routinePendingFindingsMax)
    && !TermloopRecordLists.anyWithLater
      (fun finding later =>
        !finding.isValid || !decide (finding.routineGeneration = configuration.generation)
          || later.any fun other =>
            other.id == finding.id || other.sourceKey == finding.sourceKey)
      configuration.pendingRoutineFindings
    && (configuration.actionHandling != .off || configuration.pendingRoutineFindings.isEmpty)
    && decide (trackerScheduleMinSeconds ≤ configuration.scheduleIntervalSeconds)
    && decide (configuration.scheduleIntervalSeconds ≤ trackerScheduleMaxSeconds)
    && decide (0 < configuration.generation)

inductive TrackerReportKind where
  | success | problem
  deriving DecidableEq

structure TrackerReport where
  (id projectId routineId checkId : String)
  generation : Nat
  kind : TrackerReportKind
  message : String
  (sourceReferences relatedTaskIds : List String)
  createdAt : Nat

def TrackerReport.isValid (report : TrackerReport) : Bool :=
  !isBlank report.id
    && !isBlank report.projectId
    && !isBlank report.routineId
    && !isBlank report.checkId
    && decide (0 < report.generation)
    && !isBlank report.message
    && decide (report.message.utf8ByteSize ≤ trackerReportMaxBytes)
    && boundedUniqueValues report.relatedTaskIds routineRelatedTasksMax companionIdMaxBytes
    && boundedUniqueValues report.sourceReferences trackerReportSourceRefsMax
      trackerReportSourceRefMaxBytes

def routineNextDue (configuration : TrackerConfiguration) : Nat :=
  match configuration.lastAttemptAt.or configuration.lastSuccessfulReportAt with
  | none => configuration.updatedAt
  | some finishedAt =>
    saturatingAdd finishedAt (saturatingMul configuration.scheduleIntervalSeconds 1000)

structure StewardConfiguration where
  projectId : String
  enabled : Bool
  generation : Nat
  executorSessionId : Option String

inductive PlaybookGateKind where
  | automatic | human
  deriving DecidableEq

structure PlaybookMilestone where
  (id title : String)
  gate : PlaybookGateKind
  routineId : String
  retryDelaySeconds : Nat
  approver : Option String
  deriving DecidableEq

structure PlaybookConfiguration where
  projectId : String
  milestones : List PlaybookMilestone
  deriving DecidableEq

inductive PlaybookStepVerdict where
  | passed | waiting | blocked
  deriving DecidableEq

inductive PlaybookStepEvaluator where
  | deterministic | routine | agent
  deriving DecidableEq

inductive PlaybookDeterministicFallback where
  | noTaskBranch | unsupportedRepository | providerUnavailable | unauthorized | offline
  | rateLimited | timeout | providerFailure | multipleMatches | checksUnsupported
  | commitsUnavailable
  deriving DecidableEq

structure PlaybookStepProgress where
  (taskId milestoneId routineId : String)
  verdict : PlaybookStepVerdict
  evidence : String
  decidedAt : Nat
  nextAttemptAt : Option Nat
  evaluator : PlaybookStepEvaluator
  deterministicFallback : Option PlaybookDeterministicFallback
  deriving DecidableEq

structure BoardTask where
  (id projectId title : String)
  status : TaskStatus
  archivedAt : Option Nat
  rank : Nat

inductive PlaybookPosition where
  | at (index : Nat)
  | done

def PlaybookStepProgress.passes (answer : PlaybookStepProgress) (milestone : PlaybookMilestone) :
    Bool :=
  answer.milestoneId == milestone.id && answer.routineId == milestone.routineId
    && answer.verdict == .passed

def pipelinePosition (milestones : List PlaybookMilestone) (answers : List PlaybookStepProgress) :
    PlaybookPosition :=
  match milestones.findIdx? fun milestone => !answers.any fun answer => answer.passes milestone with
  | some index => .at index
  | none => .done

/-- Records that Routines run from. Routine ids are unique, as in every saved state. -/
structure RoutineStore where
  trackerConfigurations : List TrackerConfiguration
  stewardConfigurations : List StewardConfiguration
  playbookConfigurations : List PlaybookConfiguration
  tasks : List BoardTask
  playbookStepProgress : List PlaybookStepProgress
  uniqueRoutines : trackerConfigurations.Pairwise fun a b => b.id ≠ a.id

namespace RoutineStore
variable (store : RoutineStore)

def routine? (routineId : String) : Option TrackerConfiguration :=
  store.trackerConfigurations.find? (·.id == routineId)

def playbookForProject (projectId : String) : Option PlaybookConfiguration :=
  store.playbookConfigurations.find? (·.projectId == projectId)

def routinePlaybook (routineId : String) : Option PlaybookConfiguration :=
  (store.routine? routineId).bind fun routine => store.playbookForProject routine.projectId

def answersOf (taskId : String) : List PlaybookStepProgress :=
  store.playbookStepProgress.filter (·.taskId == taskId)

def openTasks (projectId : String) : List BoardTask :=
  store.tasks.filter fun task =>
    task.projectId == projectId && task.status == .opened && task.archivedAt.isNone

def playbookSteward (projectId : String) : Option StewardConfiguration :=
  store.stewardConfigurations.find? fun steward =>
    steward.projectId == projectId && steward.enabled

def playbookAutomationEnabled (projectId : String) : Bool :=
  (store.playbookSteward projectId).isSome

def currentSteward (projectId sessionId : String) : Option StewardConfiguration :=
  store.stewardConfigurations.find? fun steward =>
    steward.projectId == projectId && steward.enabled
      && steward.executorSessionId == some sessionId

def scheduledRoutines (projectId : String) : List TrackerConfiguration :=
  store.trackerConfigurations.filter fun routine =>
    routine.enabled && routine.projectId == projectId && routine.triggerMode.isScheduled

end RoutineStore
end TermloopRoutine
