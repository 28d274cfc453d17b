import Termloop.Store.Records

/-!
Workflow values: the configured steps of a coordinator workflow and the one current
execution that walks them. An execution is stored only when it is valid, and an
update replaces exactly the value it was computed from.
-/
namespace TermloopWorkflow
open TermloopRecordLists TermloopOutcome TermloopText TermloopStore

inductive WorkflowStepKind where
  | discuss | implement | review | fix
  deriving DecidableEq

structure WorkflowStep where
  id : String
  kind : WorkflowStepKind
  (title instructions : String)
  (agentId reuseStepId profileRef : Option String := none)
  launchSelection : Option AgentLaunchSelection := none
  deriving DecidableEq

structure WorkflowConfiguration where
  (id projectId name coordinatorAgentId : String)
  launchSelection : AgentLaunchSelection
  maxReviewCycles : Nat
  steps : List WorkflowStep
  generation : Nat
  deriving DecidableEq

def boundedSlug (value : String) (maxBytes : Nat) : Bool :=
  !value.isEmpty && decide (value.utf8ByteSize ≤ maxBytes)
    && value.toList.all fun c => asciiAlphanumeric c || c == '-' || c == '_'

def boundedText (value : String) (maxBytes : Nat) : Bool :=
  !isBlank value && decide (value.utf8ByteSize ≤ maxBytes) && !value.toList.contains '\x00'

def asciiLowerOrDigit (c : Char) : Bool := ('a' ≤ c && c ≤ 'z') || ('0' ≤ c && c ≤ '9')

def doubleHyphen : List Char → Bool
  | first :: second :: rest => (first == '-' && second == '-') || doubleHyphen (second :: rest)
  | _ => false

def agentIdIsWellFormed (value : String) : Bool :=
  match value.toList with
  | [] => false
  | first :: rest =>
    decide (value.utf8ByteSize ≤ 64) && ('a' ≤ first && first ≤ 'z')
      && rest.all (fun c => asciiLowerOrDigit c || c == '-')
      && ((first :: rest).getLast?.any asciiLowerOrDigit)
      && !doubleHyphen (first :: rest)

def slugPartsAreValid (slug : List Char) : Bool :=
  (slug.splitOn '-').all fun part => !part.isEmpty && part.all asciiLowerOrDigit

def validProfileId (head id : String) : Bool :=
  match withoutHead head.toList id.toList with
  | none => false
  | some slug =>
    decide (id.utf8ByteSize ≤ 128) && slug.head?.any (fun c => 'a' ≤ c && c ≤ 'z')
      && slugPartsAreValid slug

def validAgentProfileId (id : String) : Bool :=
  validProfileId "custom.agent-profile." id || validProfileId "builtin.agent-profile." id

def WorkflowStep.isValid (step : WorkflowStep) : Bool :=
  boundedSlug step.id 64
    && boundedText step.title 120
    && boundedText step.instructions (4 * 1024)
    && (match step.kind with
      | .discuss | .review =>
        step.agentId.any agentIdIsWellFormed
          && (match step.reuseStepId with
            | some _ => step.launchSelection.isNone
            | none => step.launchSelection.any AgentLaunchSelection.isWellFormed)
          && step.profileRef.all validAgentProfileId
      | .implement | .fix =>
        step.agentId.isNone && step.launchSelection.isNone && step.profileRef.isNone)
    && (step.kind == .review || step.reuseStepId.isNone)
    && (step.reuseStepId.isNone || step.profileRef.isNone)
    && step.reuseStepId.all fun id => boundedSlug id 64

/-- One implementation after discussions, then reviews and at most one final fix, which
    needs a review. -/
def stepsAreOrdered (steps : List WorkflowStep) : Bool :=
  let before := steps.takeWhile (·.kind != .implement)
  match steps.drop before.length with
  | [] => false
  | _ :: behind =>
    before.all (·.kind == .discuss)
      && behind.all (fun step => step.kind == .review || step.kind == .fix)
      && match behind.filter (·.kind == .fix) with
        | [] => true
        | [fix] => behind.getLast? == some fix
          && behind.any (·.kind == .review)
        | _ => false

/-- A reused conversation belongs to an earlier helper step of the same Agent. -/
def reusesEarlier : List WorkflowStep → List WorkflowStep → Bool
  | _, [] => true
  | earlier, step :: rest =>
    (step.reuseStepId.all fun reused => earlier.any fun candidate =>
        candidate.id == reused && (candidate.kind == .discuss || candidate.kind == .review)
          && candidate.agentId == step.agentId)
      && reusesEarlier (earlier ++ [step]) rest

def WorkflowConfiguration.isValid (configuration : WorkflowConfiguration) : Bool :=
  boundedSlug configuration.id 64
    && !isBlank configuration.projectId
    && boundedText configuration.name 80
    && agentIdIsWellFormed configuration.coordinatorAgentId
    && configuration.launchSelection.isWellFormed
    && decide (1 ≤ configuration.maxReviewCycles) && decide (configuration.maxReviewCycles ≤ 3)
    && !configuration.steps.isEmpty
    && decide (configuration.steps.length ≤ 8)
    && configuration.steps.all WorkflowStep.isValid
    && !anyWithLater (fun step later => later.any (·.id == step.id))
      configuration.steps
    && stepsAreOrdered configuration.steps
    && reusesEarlier [] configuration.steps
    && decide (1 ≤ configuration.generation)

inductive WorkflowExecutionPhase where
  | awaitingCoordinator | awaitingHelper | awaitingStepCompletion | completed
  deriving DecidableEq

structure WorkflowParticipant where
  (stepId helperSessionId : String)
  deriving DecidableEq

structure WorkflowReviewRequest where
  (stepId requestId : String)
  replyDelivered : Bool
  deriving DecidableEq

inductive WorkflowStepResultOutcome where
  | completed | approved | changesRequested | skipped
  deriving DecidableEq

structure WorkflowStepResult where
  stepId : String
  reviewCycle : Nat
  outcome : WorkflowStepResultOutcome
  summary : String
  completedAt : Nat
  deriving DecidableEq

structure WorkflowExecution where
  (id projectId : String)
  taskId : Option String
  configuration : WorkflowConfiguration
  (goal coordinatorSessionId : String)
  (currentStepIndex reviewCycle : Nat)
  phase : WorkflowExecutionPhase
  coordinatorPromptPending : Bool
  currentRequestId : Option String
  participants : List WorkflowParticipant
  reviewRequests : List WorkflowReviewRequest
  stepResults : List WorkflowStepResult
  reviewChangesRequested : Bool
  (startedAt updatedAt : Nat)
  deriving DecidableEq

def startExecution (id projectId : String) (taskId : Option String)
    (configuration : WorkflowConfiguration) (goal coordinatorSessionId : String) (now : Nat) :
    WorkflowExecution :=
  { id := id, projectId := projectId, taskId := taskId, configuration := configuration, goal := goal
    coordinatorSessionId := coordinatorSessionId, currentStepIndex := 0, reviewCycle := 1
    phase := .awaitingCoordinator, coordinatorPromptPending := false, currentRequestId := none
    participants := [], reviewRequests := [], stepResults := [], reviewChangesRequested := false
    startedAt := now, updatedAt := now }

namespace WorkflowExecution

abbrev steps (execution : WorkflowExecution) : List WorkflowStep := execution.configuration.steps

def currentStep (execution : WorkflowExecution) : Option WorkflowStep :=
  execution.configuration.steps[execution.currentStepIndex]?

def reviewGroup (execution : WorkflowExecution) : List WorkflowStep :=
  (execution.configuration.steps.drop execution.currentStepIndex).takeWhile (·.kind == .review)

def currentStepIs (execution : WorkflowExecution) (kind : WorkflowStepKind) : Bool :=
  execution.currentStep.any (·.kind == kind)

def validRequestId (requestId : String) : Bool :=
  !isBlank requestId && decide (requestId.utf8ByteSize ≤ 128)

def reviewRequestsAreValid (execution : WorkflowExecution) : Bool :=
  decide (execution.reviewRequests.length ≤ execution.reviewGroup.length)
    && !anyWithLater (fun request later =>
      !execution.reviewGroup.any (·.id == request.stepId)
        || !validRequestId request.requestId
        || later.any fun candidate =>
          candidate.stepId == request.stepId || candidate.requestId == request.requestId)
      execution.reviewRequests

def activeReviewRequestStateIsValid (execution : WorkflowExecution) : Bool :=
  if execution.currentStepIs .review then
    execution.currentRequestId.isNone && match execution.phase with
      | .awaitingCoordinator =>
        decide (execution.reviewRequests.length < execution.reviewGroup.length)
      | .awaitingHelper =>
        execution.reviewRequests.length == execution.reviewGroup.length
          && execution.reviewRequests.any fun request => !request.replyDelivered
      | .awaitingStepCompletion =>
        execution.reviewRequests.length == execution.reviewGroup.length
          && execution.reviewRequests.all (·.replyDelivered)
      | .completed => false
  else execution.reviewRequests.isEmpty

def phaseIsValid (execution : WorkflowExecution) : Bool :=
  match execution.phase with
  | .completed =>
    execution.currentStepIndex == execution.configuration.steps.length
      && execution.currentRequestId.isNone
  | .awaitingCoordinator => execution.currentStep.isSome && execution.currentRequestId.isNone
  | .awaitingStepCompletion =>
    execution.currentRequestId.isNone
      && (execution.currentStepIs .discuss || execution.currentStepIs .review)
  | .awaitingHelper =>
    (execution.currentStepIs .discuss || execution.currentStepIs .review)
      && (execution.currentStepIs .review || execution.currentRequestId.any validRequestId)

def participantsAreValid (execution : WorkflowExecution) : Bool :=
  decide (execution.participants.length ≤ execution.configuration.steps.length)
    && !anyWithLater (fun participant later =>
      !boundedSlug participant.stepId 64
        || isBlank participant.helperSessionId
        || !execution.configuration.steps.any (fun step =>
          step.id == participant.stepId && (step.kind == .discuss || step.kind == .review))
        || later.any (·.stepId == participant.stepId))
      execution.participants

def participant? (execution : WorkflowExecution) (stepId : String) : Option WorkflowParticipant :=
  execution.participants.find? (·.stepId == stepId)

/-- A step that reuses a conversation has the same helper as the step it reuses. -/
def reuseIsValid (execution : WorkflowExecution) : Bool :=
  execution.configuration.steps.all fun step => step.reuseStepId.all fun sourceStepId =>
    (execution.participant? step.id).all fun participant =>
      (execution.participant? sourceStepId).any fun source =>
        participant.helperSessionId == source.helperSessionId

end WorkflowExecution

def WorkflowStepResult.isValidFor (result : WorkflowStepResult) (step : WorkflowStep)
    (execution : WorkflowExecution) : Bool :=
  result.stepId == step.id
    && boundedText result.summary (2 * 1024)
    && decide (1 ≤ result.reviewCycle) && decide (result.reviewCycle ≤ execution.reviewCycle)
    && (step.kind == .review || step.kind == .fix || result.reviewCycle == 1)
    && (match step.kind with
      | .discuss | .implement => result.outcome == .completed
      | .fix => result.outcome == .completed || result.outcome == .skipped
      | .review => result.outcome == .approved || result.outcome == .changesRequested)
    && decide (execution.startedAt ≤ result.completedAt)
    && decide (result.completedAt ≤ execution.updatedAt)

namespace WorkflowExecution

def stepResultsAreValid (execution : WorkflowExecution) : Bool :=
  decide (execution.stepResults.length ≤ execution.configuration.steps.length)
    && !anyWithLater (fun result later =>
      !(execution.configuration.steps.find? (·.id == result.stepId)).any
          (fun step => result.isValidFor step execution)
        || later.any (·.stepId == result.stepId))
      execution.stepResults

def isValid (execution : WorkflowExecution) : Bool :=
  boundedSlug execution.id 64
    && !isBlank execution.projectId
    && execution.taskId.all (fun id => !isBlank id)
    && execution.configuration.isValid
    && execution.configuration.projectId == execution.projectId
    && boundedText execution.goal (32 * 1024)
    && !isBlank execution.coordinatorSessionId
    && decide (1 ≤ execution.reviewCycle)
    && decide (execution.reviewCycle ≤ execution.configuration.maxReviewCycles)
    && (!execution.coordinatorPromptPending || execution.phase == .awaitingCoordinator)
    && execution.phaseIsValid
    && execution.reviewRequestsAreValid
    && execution.activeReviewRequestStateIsValid
    && execution.participantsAreValid
    && execution.stepResultsAreValid
    && execution.reuseIsValid
    && decide (0 < execution.startedAt)
    && decide (execution.startedAt ≤ execution.updatedAt)

def sameWorkflow (left right : WorkflowExecution) : Bool :=
  left.id == right.id && left.taskId == right.taskId && left.projectId == right.projectId
    && left.configuration == right.configuration && left.goal == right.goal
    && left.coordinatorSessionId == right.coordinatorSessionId
    && left.startedAt == right.startedAt

end WorkflowExecution

end TermloopWorkflow
