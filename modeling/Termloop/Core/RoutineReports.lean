import Termloop.Core.TrackerRuntime
import Termloop.Core.WorkflowSteps

/-!
The three reports that end a check. A scheduled Routine completes with findings, any
check may end with a problem, and a step of a pipeline answers for its Task. Each of
them rewrites the stored Routine: the keys of what was seen lately, bounded and without
repetition, and the findings that wait for the Steward. The store takes the new
configuration only if it is valid.
-/
namespace TermloopReports
open TermloopRecordLists TermloopSaturating TermloopText TermloopStore TermloopWorkflow
open TermloopRoutine
  TermloopTracker

def playbookEntryIdMaxBytes : Nat := 64
def playbookRoutineIdMaxBytes : Nat := 64
def updateSummaryMaxBytes : Nat := 4096
def reportFindingsMax : Nat := 16

/-- SHA-256 over parts that are each closed by a zero byte, as hexadecimal digits. -/
structure Digest where
  hex : List String → String
  size : ∀ parts, (hex parts).utf8ByteSize = 64

def takeBytes : Nat → List Char → List Char
  | _, [] => []
  | room, c :: rest => if c.utf8Size ≤ room then c :: takeBytes (room - c.utf8Size) rest else []

def truncateUtf8 (value : String) (maxBytes : Nat) : String :=
  if value.utf8ByteSize ≤ maxBytes then value
  else String.ofList (takeBytes maxBytes value.toList)

def validSourceKey (value : String) : Bool :=
  !value.isEmpty && decide (value.utf8ByteSize ≤ routineSourceKeyMaxBytes)
    && value.toList.all fun c =>
      asciiAlphanumeric c || c == '.' || c == '_' || c == ':' || c == '/' || c == '-'

def uniqueBounded (values : List String) (maxItems maxBytes : Nat) : Bool :=
  boundedUniqueValues values maxItems maxBytes

def pushNew (values : List String) (value : String) : List String :=
  if values.contains value then values else values ++ [value]

def latestKeys (keys : List String) : List String :=
  keys.drop (keys.length - routineRecentSourceKeysMax)

def sameProjectTasksExist (store : RoutineStore) (projectId : String) (taskIds : List String) :
    Bool :=
  taskIds.all fun taskId => store.tasks.any fun task =>
    task.id == taskId && task.projectId == projectId

def pushRuntimeReport (runtime : TrackerRuntimeState) (report : TrackerReport) :
    TrackerRuntimeState :=
  let full := decide (trackerReportsPerProjectMax
    ≤ runtime.reports.countP (·.projectId == report.projectId))
  let kept :=
    if full then runtime.reports.eraseP (·.projectId == report.projectId)
    else runtime.reports
  { runtime with reports := kept ++ [report] }

def putRoutine (store : RoutineStore) (configuration : TrackerConfiguration) : RoutineStore :=
  if stored : store.trackerConfigurations.any (·.id == configuration.id) then
    { store with
      trackerConfigurations :=
        updateFirst (·.id == configuration.id) (fun _ => configuration)
          store.trackerConfigurations
      uniqueRoutines := by
        have replaced : ∀ x, store.trackerConfigurations.find? (fun current =>
            current.id == configuration.id) = some x → x.id = configuration.id := by
          intro x found
          have hit := List.find?_some found
          exact beq_iff_eq.mp hit
        refine pairwise_updateFirst store.uniqueRoutines ?_ ?_
        · intro x y found _ apart
          exact replaced x found ▸ apart
        · intro x y found _ apart
          exact replaced x found ▸ apart }
  else
    { store with
      trackerConfigurations := store.trackerConfigurations ++ [configuration]
      uniqueRoutines := by
        refine List.pairwise_append.mpr
          ⟨store.uniqueRoutines, List.pairwise_singleton _ _, ?_⟩
        intro current present new added same
        rw [List.mem_singleton.mp added] at same
        exact stored (List.any_eq_true.mpr ⟨current, present, beq_iff_eq.mpr same.symm⟩) }

def setTrackerConfiguration (store : RoutineStore) (configuration : TrackerConfiguration) :
    Except StoreError RoutineStore :=
  if !configuration.isValid
      || !sameProjectTasksExist store configuration.projectId configuration.relatedTaskIds
      || (store.routine? configuration.id).any (·.projectId != configuration.projectId) then
    .error .constraintViolation
  else .ok (putRoutine store configuration)

/-- What the store demands of each Routine that it holds. -/
def trackerConfigurationsAreInvalid (store : RoutineStore) : Bool :=
  store.trackerConfigurations.any fun configuration =>
    !configuration.isValid
      || !sameProjectTasksExist store configuration.projectId configuration.relatedTaskIds
      || !sameProjectTasksExist store configuration.projectId
        (configuration.pendingRoutineFindings.flatMap (·.relatedTaskIds))

def progressIsValid (answer : PlaybookStepProgress) : Bool :=
  !isBlank answer.taskId
    && decide (answer.taskId.utf8ByteSize ≤ 256)
    && boundedSlug answer.milestoneId playbookEntryIdMaxBytes
    && (!isBlank answer.routineId
      && decide (answer.routineId.utf8ByteSize ≤ playbookRoutineIdMaxBytes))
    && (decide (answer.evidence.utf8ByteSize ≤ playbookEvidenceMaxBytes)
      && (answer.evidence.isEmpty || !isBlank answer.evidence)
      && !answer.evidence.toList.any fun c => isControl c && c != '\n')
    && (answer.evaluator == .routine || answer.deterministicFallback.isNone)
    && match answer.verdict with
      | .passed => answer.nextAttemptAt.isNone
      | .waiting | .blocked => answer.nextAttemptAt.isSome

def progressMatchesCurrentStep (playbook : PlaybookConfiguration) (answer : PlaybookStepProgress) :
    Bool :=
  playbook.milestones.any fun milestone =>
    milestone.id == answer.milestoneId && milestone.routineId == answer.routineId

def stepProgressConflicts (store : RoutineStore) (answer : PlaybookStepProgress)
    (others : List PlaybookStepProgress) : Bool :=
  match store.tasks.find? (·.id == answer.taskId) with
  | none => true
  | some task =>
    !progressIsValid answer
      || !(store.playbookConfigurations.any fun playbook =>
        playbook.projectId == task.projectId && progressMatchesCurrentStep playbook answer)
      || others.any fun candidate =>
        candidate.taskId == answer.taskId && candidate.milestoneId == answer.milestoneId

def stepProgressBatchIsInvalid (store : RoutineStore) (projectId : String)
    (answers : List PlaybookStepProgress) : Bool :=
  anyWithLater (fun answer later =>
    !(store.tasks.any fun task => task.id == answer.taskId && task.projectId == projectId)
      || stepProgressConflicts store answer later) answers

def applyStepProgress (progress answers : List PlaybookStepProgress) : List PlaybookStepProgress :=
  answers.foldl (fun progress answer =>
    let current := fun stored : PlaybookStepProgress =>
      stored.taskId == answer.taskId && stored.milestoneId == answer.milestoneId
    if progress.any current then updateFirst current (fun _ => answer) progress
    else progress ++ [answer]) progress

def recorded (store : RoutineStore) (routine : TrackerConfiguration)
    (answers : List PlaybookStepProgress) : RoutineStore :=
  { putRoutine store routine with
    playbookStepProgress := applyStepProgress store.playbookStepProgress answers }

def recordPlaybookStepProgressWithRoutine (store : RoutineStore) (projectId : String)
    (answers : List PlaybookStepProgress) (routine : TrackerConfiguration) :
    Except StoreError RoutineStore :=
  if (store.playbookForProject projectId).isNone || routine.projectId != projectId
      || routine.triggerMode.isScheduled || stepProgressBatchIsInvalid store projectId answers then
    .error .constraintViolation
  else if !(store.trackerConfigurations.any fun current =>
      current.id == routine.id && current.projectId == projectId) then .error .notFound
  else if answers.any (·.routineId != routine.id) then .error .constraintViolation
  else if trackerConfigurationsAreInvalid (recorded store routine answers) then
    .error .constraintViolation
  else .ok (recorded store routine answers)

section Complete

structure RoutineFinding where
  (id sourceKey summary evidence : String)
  (sourceReferences relatedTaskIds : List String)

structure RoutineUpdate where
  expectedContextRevision : Nat
  contextMarkdown : String
  updateSummary : Option String
  findings : List RoutineFinding
  relatedTaskIds : List String

variable (store : RoutineStore) (configuration : TrackerConfiguration)

def RoutineFinding.asPending (finding : RoutineFinding) (generation completedAt : Nat) :
    PendingRoutineFinding :=
  { id := finding.id, sourceKey := finding.sourceKey, routineGeneration := generation,
    summary := finding.summary, evidence := finding.evidence,
    sourceReferences := finding.sourceReferences, relatedTaskIds := finding.relatedTaskIds,
    createdAt := completedAt }

def routineContextIsInvalid (update : RoutineUpdate) : Bool :=
  decide (routineContextMaxBytes < update.contextMarkdown.utf8ByteSize)
    || (update.updateSummary.any fun summary =>
      isBlank summary || decide (updateSummaryMaxBytes < summary.utf8ByteSize))
    || decide (reportFindingsMax < update.findings.length)
    || !uniqueBounded update.relatedTaskIds routineRelatedTasksMax 256
    || !sameProjectTasksExist store configuration.projectId update.relatedTaskIds

def findingsAreInvalid (completedAt : Nat) :
    List String → List String → List RoutineFinding → Bool
  | _, _, [] => false
  | ids, keys, finding :: rest =>
    !(finding.asPending configuration.generation completedAt).isValid
      || !validSourceKey finding.sourceKey
      || isBlank finding.summary
      || decide (routineFindingSummaryMaxBytes < finding.summary.utf8ByteSize)
      || isBlank finding.evidence
      || decide (routineFindingEvidenceMaxBytes < finding.evidence.utf8ByteSize)
      || !uniqueBounded finding.sourceReferences trackerReportSourceRefsMax
        trackerReportSourceRefMaxBytes
      || !uniqueBounded finding.relatedTaskIds routineRelatedTasksMax 256
      || ids.contains finding.id
      || keys.contains finding.sourceKey
      || !sameProjectTasksExist store configuration.projectId finding.relatedTaskIds
      || findingsAreInvalid completedAt (ids ++ [finding.id]) (keys ++ [finding.sourceKey]) rest

def novelFindings (findings : List RoutineFinding) : List RoutineFinding :=
  findings.filter fun finding => !configuration.recentSourceKeys.contains finding.sourceKey

def keysWith (novel : List RoutineFinding) : List String :=
  latestKeys ((novel.map (·.sourceKey)).foldl pushNew
    configuration.recentSourceKeys)

def RoutineFinding.trimmed (finding : RoutineFinding) : RoutineFinding :=
  { finding with summary := trim finding.summary, evidence := trim finding.evidence }

/-- The findings that wait for the Steward: a Routine that takes no action keeps none. -/
def pendingFrom (novel : List RoutineFinding) (completedAt : Nat) : List PendingRoutineFinding :=
  if configuration.triggerMode.isScheduled && configuration.actionHandling != .off then
    novel.map fun finding => finding.trimmed.asPending configuration.generation completedAt
  else []

def findingLine (finding : RoutineFinding) : String :=
  "- " ++ trim finding.summary ++ "\n  Evidence: " ++ trim finding.evidence

def completionReport (capability : TrackerCheckCapability) (update : RoutineUpdate)
    (novel : List RoutineFinding) (reportId : String) (completedAt : Nat) : TrackerReport :=
  { id := reportId, projectId := capability.projectId, routineId := capability.trackerId
    checkId := capability.checkId, generation := capability.generation, kind := .success
    message := String.intercalate "\n"
      ((update.updateSummary.map trim).toList ++ novel.map findingLine)
    sourceReferences := (novel.flatMap (·.sourceReferences)).foldl pushNew []
    relatedTaskIds :=
      ((if update.updateSummary.isSome then update.relatedTaskIds else [])
        ++ novel.flatMap (·.relatedTaskIds)).foldl pushNew []
    createdAt := completedAt }

structure PreparedCompletion where
  configuration : TrackerConfiguration
  report : Option TrackerReport
  (newFindingCount newPendingFindingCount : Nat)
  (contextChanged contextMarkdownApplied : Bool)

def completedConfiguration (capability : TrackerCheckCapability) (update : RoutineUpdate)
    (novel : List RoutineFinding) (completedAt revision : Nat) : TrackerConfiguration :=
  { configuration with
    pendingRoutineFindings :=
      configuration.pendingRoutineFindings ++ pendingFrom configuration novel completedAt
    contextRevision := revision
    -- A newer document of the user is kept.
    contextMarkdown :=
      if configuration.contextRevision == update.expectedContextRevision then
        update.contextMarkdown
      else configuration.contextMarkdown
    recentSourceKeys := keysWith configuration novel, relatedTaskIds := update.relatedTaskIds
    lastCheckStartedAt := some capability.claimedAt, lastAttemptAt := some completedAt
    lastSuccessfulReportAt := some completedAt, updatedAt := completedAt }

def prepareCompletion (runtime : TrackerRuntimeState) (capability : TrackerCheckCapability)
    (update : RoutineUpdate) (reportId : String) (completedAt : Nat) :
    Except CoreError PreparedCompletion :=
  match validateCurrentCheck store runtime capability completedAt with
  | .error error => .error error
  | .ok configuration =>
    if configuration.contextRevision < update.expectedContextRevision then .error .revisionConflict
    else if routineContextIsInvalid store configuration update then
      .error (.invalidParams "routineContext")
    else if findingsAreInvalid store configuration completedAt [] [] update.findings then
      .error .trackerReportInvalid
    else
      let novel := novelFindings configuration update.findings
      let applied := configuration.contextRevision == update.expectedContextRevision
      let changed :=
        applied && configuration.contextMarkdown != update.contextMarkdown
          || configuration.recentSourceKeys != keysWith configuration novel
          || configuration.relatedTaskIds != update.relatedTaskIds
      if routinePendingFindingsMax
          < configuration.pendingRoutineFindings.length
            + (pendingFrom configuration novel completedAt).length then
        .error .trackerReportInvalid
      else if changed && decide (u64Max ≤ configuration.contextRevision) then
        .error .revisionConflict
      else
        let revision :=
          if changed then configuration.contextRevision + 1 else configuration.contextRevision
        let quiet := update.updateSummary.isNone && novel.isEmpty
        let report := completionReport capability update novel reportId completedAt
        if !quiet && !report.isValid then .error .trackerReportInvalid
        else
          .ok { configuration :=
                  completedConfiguration configuration capability update novel completedAt revision
                report := if quiet then none else some report
                newFindingCount := novel.length
                newPendingFindingCount := (pendingFrom configuration novel completedAt).length
                contextChanged := changed, contextMarkdownApplied := applied }

structure RoutineCompleted where
  (newFindingCount newPendingFindingCount : Nat)
  (contextChanged contextMarkdownApplied : Bool)
  contextRevision : Nat
  (pendingTrigger reportCreated : Bool)

def completeStewardRoutine (core : TrackerCore) (capability : TrackerCheckCapability)
    (update : RoutineUpdate) (reportId : String) (completedAt : Nat) :
    Except CoreError RoutineCompleted × TrackerCore :=
  match prepareCompletion core.store core.runtime capability update reportId completedAt with
  | .error error => (.error error, core)
  | .ok prepared =>
    match setTrackerConfiguration core.store prepared.configuration with
    | .error error => (.error (.store error), core)
    | .ok stored =>
      let finished := finishStewardRoutineCheck stored core.runtime capability none completedAt
        prepared.configuration
      (.ok { newFindingCount := prepared.newFindingCount
             newPendingFindingCount := prepared.newPendingFindingCount
             contextChanged := prepared.contextChanged
             contextMarkdownApplied := prepared.contextMarkdownApplied
             contextRevision := prepared.configuration.contextRevision, pendingTrigger := finished.1
             reportCreated := prepared.report.isSome },
        { core with
          store := stored
          runtime := match prepared.report with
            | some report => pushRuntimeReport finished.2 report
            | none => finished.2 })

end Complete

section Problem
variable (digest : Digest) (hasProposal : String → Bool)

def routineProblemSourceKey (routineId episode message : String)
    (sourceReferences relatedTaskIds : List String) : String :=
  "routine-problem:"
    ++ digest.hex ([routineId, episode, message] ++ sourceReferences ++ relatedTaskIds)

/-- The Routine's Tasks that still exist, or the one Task whose step was checked. -/
def problemTaskIds (store : RoutineStore) (runtime : TrackerRuntimeState)
    (capability : TrackerCheckCapability) (configuration : TrackerConfiguration) : List String :=
  if configuration.triggerMode.isScheduled then
    configuration.relatedTaskIds.filter fun taskId =>
      sameProjectTasksExist store configuration.projectId [taskId]
  else (runtime.claimedStepTaskId capability).toList

def problemReport (capability : TrackerCheckCapability) (message : String)
    (sourceReferences relatedTaskIds : List String) (reportId : String) (completedAt : Nat) :
    TrackerReport :=
  { id := reportId, projectId := capability.projectId, routineId := capability.trackerId
    checkId := capability.checkId, generation := capability.generation, kind := .problem
    message := message, sourceReferences := sourceReferences, relatedTaskIds := relatedTaskIds
    createdAt := completedAt }

def duplicatesReport (reports : List TrackerReport) (report : TrackerReport) : Bool :=
  (reports.reverse.find? fun candidate =>
    candidate.projectId == report.projectId && candidate.routineId == report.routineId).any
      fun candidate =>
        candidate.kind == .problem && candidate.message == report.message
          && candidate.sourceReferences == report.sourceReferences
          && candidate.relatedTaskIds == report.relatedTaskIds

def problemFinding (configuration : TrackerConfiguration) (id sourceKey message : String)
    (sourceReferences relatedTaskIds : List String) (completedAt : Nat) : PendingRoutineFinding :=
  { id := id, sourceKey := sourceKey, routineGeneration := configuration.generation
    summary := configuration.name ++ " could not complete its evidence check."
    evidence := truncateUtf8 message routineFindingEvidenceMaxBytes
    sourceReferences := sourceReferences, relatedTaskIds := relatedTaskIds
    createdAt := completedAt }

/-- What a check leaves of findings and keys, and whether the Steward is to look. -/
structure Review where
  configuration : TrackerConfiguration
  newPending : List PendingRoutineFinding := []
  stewardReviewRequired : Bool := false

def concernsTask (taskIds : List String) (finding : PendingRoutineFinding) : Bool :=
  finding.relatedTaskIds.any fun taskId => taskIds.contains taskId

/-- A new problem replaces a finding about the same Tasks, or is added while there is room.
    -/
def noteNewProblem (configuration : TrackerConfiguration) (sourceKey : String)
    (report : TrackerReport) (completedAt : Nat) : Review :=
  let note := fun id => problemFinding configuration id sourceKey report.message
    report.sourceReferences report.relatedTaskIds completedAt
  let noted : Review :=
    if configuration.pendingRoutineFindings.any (concernsTask report.relatedTaskIds) then
      { configuration :=
          { configuration with
            pendingRoutineFindings := updateFirst (concernsTask report.relatedTaskIds)
              (fun finding => note finding.id) configuration.pendingRoutineFindings }
        stewardReviewRequired := !hasProposal configuration.projectId }
    else if configuration.pendingRoutineFindings.length < routinePendingFindingsMax then
      { configuration :=
          { configuration with
            pendingRoutineFindings := configuration.pendingRoutineFindings ++ [note report.id] }
        newPending := [note report.id], stewardReviewRequired := true }
    else { configuration := configuration }
  if noted.stewardReviewRequired then
    { noted with
      configuration :=
        { noted.configuration with
          recentSourceKeys := noted.configuration.recentSourceKeys ++ [sourceKey] } }
  else noted

def noteProblem (configuration : TrackerConfiguration) (sourceKey : String)
    (report : TrackerReport) (completedAt : Nat) : Review :=
  if configuration.actionHandling == .off then { configuration := configuration }
  else if configuration.pendingRoutineFindings.any (·.sourceKey == sourceKey) then
    { configuration := configuration
      stewardReviewRequired := !hasProposal configuration.projectId }
  else if configuration.recentSourceKeys.contains sourceKey then
    { configuration := configuration }
  else noteNewProblem hasProposal configuration sourceKey report completedAt

def problemKey (configuration : TrackerConfiguration) (report : TrackerReport) : String :=
  routineProblemSourceKey digest configuration.id
    (toString (configuration.lastSuccessfulReportAt.getD 0)) report.message report.sourceReferences
    report.relatedTaskIds

structure PreparedProblem where
  configuration : TrackerConfiguration
  report : TrackerReport
  duplicateReport : Bool
  newPendingFindingCount : Nat
  stewardReviewRequired : Bool

def prepareProblem (store : RoutineStore) (runtime : TrackerRuntimeState)
    (capability : TrackerCheckCapability) (message : String) (sourceReferences : List String)
    (reportId : String) (completedAt : Nat) : Except CoreError PreparedProblem :=
  match validateCurrentCheck store runtime capability completedAt with
  | .error error => .error error
  | .ok configuration =>
    let report := problemReport capability (trim message) sourceReferences
      (problemTaskIds store runtime capability configuration) reportId completedAt
    if !report.isValid then .error .trackerReportInvalid
    else
      let noted := noteProblem hasProposal configuration (problemKey digest configuration report)
        report completedAt
      .ok { configuration :=
              { noted.configuration with
                recentSourceKeys := latestKeys noted.configuration.recentSourceKeys
                lastCheckStartedAt := some capability.claimedAt, lastAttemptAt := some completedAt
                updatedAt := completedAt }
            report := report, duplicateReport := duplicatesReport runtime.reports report
            newPendingFindingCount := noted.newPending.length
            stewardReviewRequired := noted.stewardReviewRequired }

structure ProblemReported where
  (pendingTrigger problemChanged reportCreated : Bool)
  relatedTaskIds : List String
  newPendingFindingCount : Nat
  stewardReviewRequired : Bool

def reportStewardRoutineProblem (core : TrackerCore) (capability : TrackerCheckCapability)
    (message : String) (sourceReferences : List String) (reportId : String) (completedAt : Nat) :
    Except CoreError ProblemReported × TrackerCore :=
  match prepareProblem digest hasProposal core.store core.runtime capability message
      sourceReferences reportId completedAt with
  | .error error => (.error error, core)
  | .ok prepared =>
    match setTrackerConfiguration core.store prepared.configuration with
    | .error error => (.error (.store error), core)
    | .ok stored =>
      let finished := finishStewardRoutineCheck stored core.runtime capability
        (some prepared.report.message) completedAt prepared.configuration
      (.ok { pendingTrigger := finished.1
             problemChanged := !prepared.duplicateReport, reportCreated := !prepared.duplicateReport
             relatedTaskIds := prepared.report.relatedTaskIds
             newPendingFindingCount := prepared.newPendingFindingCount
             stewardReviewRequired := prepared.stewardReviewRequired },
        { core with
          store := stored
          runtime :=
            if prepared.duplicateReport then finished.2
            else pushRuntimeReport finished.2 prepared.report })

end Problem

section Verdicts
variable (digest : Digest) (hasProposal : String → Bool)

structure StewardStepVerdict where
  taskId : String
  verdict : PlaybookStepVerdict
  evidence : String

def stepWaitingSourceKey (milestoneId taskId evidence : String) : String :=
  "step-waiting:" ++ digest.hex [milestoneId, taskId, evidence]

def verdictIsInvalid (assignment : PlaybookStepAssignment) (answers : List PlaybookStepProgress)
    (verdict : StewardStepVerdict) : Bool :=
  (trim verdict.evidence).isEmpty
    || decide (playbookEvidenceMaxBytes < (trim verdict.evidence).utf8ByteSize)
    || assignment.waiting.taskId != verdict.taskId
    || answers.any (·.taskId == verdict.taskId)

def stepAnswer (assignment : PlaybookStepAssignment)
    (evaluation : PlaybookStepEvaluator × Option PlaybookDeterministicFallback) (completedAt : Nat)
    (verdict : StewardStepVerdict) : PlaybookStepProgress :=
  { taskId := verdict.taskId, milestoneId := assignment.milestone.id
    routineId := assignment.milestone.routineId, verdict := verdict.verdict
    evidence := trim verdict.evidence, decidedAt := completedAt
    nextAttemptAt :=
      if verdict.verdict != .passed then
        some (saturatingAdd completedAt (saturatingMul assignment.milestone.retryDelaySeconds 1000))
      else none
    evaluator := evaluation.1, deterministicFallback := evaluation.2 }

def stepAnswers (assignment : PlaybookStepAssignment)
    (evaluation : PlaybookStepEvaluator × Option PlaybookDeterministicFallback)
    (completedAt : Nat) : List PlaybookStepProgress → List StewardStepVerdict →
      Except CoreError (List PlaybookStepProgress)
  | answers, [] => .ok answers
  | answers, verdict :: rest =>
    if verdictIsInvalid assignment answers verdict then .error .trackerReportInvalid
    else stepAnswers assignment evaluation completedAt
      (answers ++ [stepAnswer assignment evaluation completedAt verdict]) rest

def waitingTitle (assignment : PlaybookStepAssignment) (answer : PlaybookStepProgress) : String :=
  if assignment.waiting.taskId == answer.taskId then assignment.waiting.title else answer.taskId

def waitingSummary (assignment : PlaybookStepAssignment) (answer : PlaybookStepProgress) : String :=
  waitingTitle assignment answer ++ " is waiting at “" ++ assignment.milestone.title ++ "”."

def waitingFinding (configuration : TrackerConfiguration) (id sourceKey : String)
    (assignment : PlaybookStepAssignment) (answer : PlaybookStepProgress) (completedAt : Nat) :
    PendingRoutineFinding :=
  { id := id, sourceKey := sourceKey, routineGeneration := configuration.generation
    summary := waitingSummary assignment answer, evidence := answer.evidence, sourceReferences := []
    relatedTaskIds := [answer.taskId], createdAt := completedAt }

def concerns (taskId : String) (finding : PendingRoutineFinding) : Bool :=
  finding.relatedTaskIds.contains taskId

/-- New evidence about a finding that is already pending: it keeps its identity. -/
def refreshFinding (sourceKey : String) (assignment : PlaybookStepAssignment)
    (answer : PlaybookStepProgress) (completedAt : Nat) (existing : PendingRoutineFinding) :
    PendingRoutineFinding :=
  { existing with
    sourceKey := sourceKey, summary := waitingSummary assignment answer, evidence := answer.evidence
    sourceReferences := [], createdAt := completedAt }

/-- A Task that stays where it is, with evidence that no pending finding has. -/
def noteWaiting (assignment : PlaybookStepAssignment) (reportId : String) (completedAt : Nat)
    (review : Review) (index : Nat) (answer : PlaybookStepProgress) (sourceKey : String) : Review :=
  let configuration := review.configuration
  if configuration.actionHandling == .off then
    { review with
      configuration :=
        { configuration with recentSourceKeys := configuration.recentSourceKeys ++ [sourceKey] } }
  else if configuration.pendingRoutineFindings.any (concerns answer.taskId) then
    { review with
      configuration :=
        { configuration with
          pendingRoutineFindings := updateFirst (concerns answer.taskId)
            (refreshFinding sourceKey assignment answer completedAt)
            configuration.pendingRoutineFindings
          recentSourceKeys := pushNew configuration.recentSourceKeys sourceKey }
      stewardReviewRequired :=
        review.stewardReviewRequired || !hasProposal configuration.projectId }
  else if configuration.recentSourceKeys.contains sourceKey then review
  else if routinePendingFindingsMax
      ≤ configuration.pendingRoutineFindings.length + review.newPending.length then review
  else
    { configuration :=
        { configuration with recentSourceKeys := configuration.recentSourceKeys ++ [sourceKey] }
      newPending := review.newPending ++
        [waitingFinding configuration (reportId ++ "-" ++ toString index) sourceKey assignment answer
          completedAt]
      stewardReviewRequired := true }

def noteAnswer (assignment : PlaybookStepAssignment) (reportId : String) (completedAt : Nat)
    (review : Review) (entry : PlaybookStepProgress × Nat) : Review :=
  let answer := entry.1
  let configuration := review.configuration
  if answer.verdict == .passed then
    { review with
      configuration :=
        { configuration with
          pendingRoutineFindings := configuration.pendingRoutineFindings.filter fun finding =>
            !concerns answer.taskId finding } }
  else
    let sourceKey := stepWaitingSourceKey digest assignment.milestone.id answer.taskId
      answer.evidence
    if configuration.pendingRoutineFindings.any (·.sourceKey == sourceKey) then
      { review with
        configuration :=
          { configuration with
            recentSourceKeys := pushNew configuration.recentSourceKeys sourceKey }
        stewardReviewRequired :=
          review.stewardReviewRequired || !hasProposal configuration.projectId }
    else noteWaiting hasProposal assignment reportId completedAt review entry.2 answer sourceKey

def noteAnswers (assignment : PlaybookStepAssignment) (reportId : String) (completedAt : Nat)
    (configuration : TrackerConfiguration) (answers : List PlaybookStepProgress) : Review :=
  answers.zipIdx.foldl (noteAnswer digest hasProposal assignment reportId completedAt)
    { configuration := configuration }

def Review.settled (review : Review) : TrackerConfiguration :=
  { review.configuration with
    pendingRoutineFindings := review.configuration.pendingRoutineFindings ++ review.newPending }

def verdictWord : PlaybookStepVerdict → String
  | .passed => "passed"
  | .waiting => "pending"
  | .blocked => "blocked"

def passedAnswers (answers : List PlaybookStepProgress) : List PlaybookStepProgress :=
  answers.filter (·.verdict == .passed)

def verdictReport (capability : TrackerCheckCapability) (assignment : PlaybookStepAssignment)
    (answers : List PlaybookStepProgress) (reportId : String) (completedAt : Nat) :
    TrackerReport :=
  { id := reportId, projectId := capability.projectId, routineId := capability.trackerId
    checkId := capability.checkId, generation := capability.generation, kind := .success
    message := String.intercalate "\n"
      ((assignment.milestone.title ++ " — " ++ toString (passedAnswers answers).length ++ " of "
          ++ toString answers.length ++ " Task(s) passed.")
        :: answers.map fun answer =>
          "- " ++ answer.taskId ++ " " ++ verdictWord answer.verdict ++ ": " ++ answer.evidence)
    sourceReferences := []
    relatedTaskIds :=
      ((passedAnswers answers).take routineRelatedTasksMax).map (·.taskId)
    createdAt := completedAt }

structure PreparedVerdicts where
  assignment : PlaybookStepAssignment
  answers : List PlaybookStepProgress
  configuration : TrackerConfiguration
  report : TrackerReport
  newPendingFindingCount : Nat
  stewardReviewRequired : Bool

/-- The question that the claim was issued for, if its Task still stands there. -/
def claimedAssignment (store : RoutineStore) (runtime : TrackerRuntimeState)
    (capability : TrackerCheckCapability) : Option PlaybookStepAssignment :=
  (runtime.claimedStepMilestoneId capability).bind fun milestoneId =>
    (runtime.claimedStepTaskId capability).bind fun taskId =>
      (playbookStepAssignmentForTask store capability.trackerId taskId).filter fun assignment =>
        assignment.milestone.id == milestoneId && assignment.waiting.taskId == taskId

def prepareVerdicts (store : RoutineStore) (runtime : TrackerRuntimeState)
    (capability : TrackerCheckCapability) (verdicts : List StewardStepVerdict) (reportId : String)
    (completedAt : Nat) : Except CoreError PreparedVerdicts :=
  match validateCurrentCheck store runtime capability completedAt with
  | .error error => .error error
  | .ok configuration =>
    if configuration.triggerMode.isScheduled then .error (.invalidParams "verdicts")
    else
      match claimedAssignment store runtime capability with
      | none => .error .trackerReportStale
      | some assignment =>
        if verdicts.length != 1 then .error .trackerReportInvalid
        else
          match stepAnswers assignment (runtime.claimedStepEvaluation capability) completedAt []
              verdicts with
          | .error error => .error error
          | .ok answers =>
            let noted := noteAnswers digest hasProposal assignment reportId completedAt
              configuration answers
            let report := verdictReport capability assignment answers reportId completedAt
            if !report.isValid then .error .trackerReportInvalid
            else
              .ok { assignment := assignment
                    answers := answers
                    configuration :=
                      { noted.settled with
                        recentSourceKeys := latestKeys noted.settled.recentSourceKeys
                        lastCheckStartedAt := some capability.claimedAt
                        lastAttemptAt := some completedAt
                        lastSuccessfulReportAt := some completedAt, updatedAt := completedAt }
                    report := report, newPendingFindingCount := noted.newPending.length
                    stewardReviewRequired := noted.stewardReviewRequired }

structure VerdictsRecorded where
  milestoneId : String
  (passedCount waitingCount blockedCount newPendingFindingCount : Nat)
  stewardReviewRequired : Bool

def applyPlaybookStepVerdicts (core : TrackerCore) (capability : TrackerCheckCapability)
    (verdicts : List StewardStepVerdict) (reportId : String) (completedAt : Nat) :
    Except CoreError VerdictsRecorded × TrackerCore :=
  match prepareVerdicts digest hasProposal core.store core.runtime capability verdicts reportId
      completedAt with
  | .error error => (.error error, core)
  | .ok prepared =>
    match recordPlaybookStepProgressWithRoutine core.store prepared.assignment.projectId
        prepared.answers prepared.configuration with
    | .error error => (.error (.store error), core)
    | .ok stored =>
      let finished := finishStewardStepCheck core.runtime capability completedAt
        prepared.configuration
      (.ok { milestoneId := prepared.assignment.milestone.id
             passedCount := (passedAnswers prepared.answers).length
             waitingCount := prepared.answers.length - (passedAnswers prepared.answers).length
             blockedCount := prepared.answers.countP (·.verdict == .blocked)
             newPendingFindingCount := prepared.newPendingFindingCount
             stewardReviewRequired := prepared.stewardReviewRequired },
        { core with
          store := stored
          runtime := pushRuntimeReport finished.2 prepared.report })

end Verdicts
end TermloopReports
