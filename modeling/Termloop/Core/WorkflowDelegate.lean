import Termloop.Core.AskTo

/-!
Delegating a workflow step to a helper. The call is split: a plan under the lock, the
helper's launch outside it, and a commit under the lock again that makes the
execution wait for the request.
-/
namespace TermloopWorkflow
open TermloopRecordLists TermloopOutcome TermloopStore TermloopAskTo

structure WorkflowDelegateCommit where
  (executionId stepId requestId conversationId coordinatorSessionId : String)
  deriving DecidableEq

def WorkflowExecution.hasReviewFor (execution : WorkflowExecution) (stepId : String) : Bool :=
  execution.reviewRequests.any (·.stepId == stepId)

def WorkflowExecution.delegatedStep (execution : WorkflowExecution) : Option WorkflowStep :=
  match execution.currentStep with
  | none => none
  | some step =>
    match step.kind with
    | .discuss => some step
    | .review => execution.reviewGroup.find? fun step => !execution.hasReviewFor step.id
    | .implement | .fix => none

def WorkflowExecution.continuedStep (execution : WorkflowExecution) (step : WorkflowStep) :
    Option String :=
  ((execution.participant? step.id).map (·.stepId)).or step.reuseStepId

def continuedConversation (store : CurrentState) (execution : WorkflowExecution)
    (step : WorkflowStep) : Option String :=
  (execution.continuedStep step).bind fun stepId =>
    (execution.participant? stepId).bind fun participant =>
      (store.session? participant.helperSessionId).bind fun session =>
        session.askToContinuation.map (·.conversationId)

def stepKey (executionId : String) (cycle : Nat) (stepId : String) : String :=
  "workflow:" ++ executionId ++ ":" ++ toString cycle ++ ":" ++ stepId

def delegateKey (execution : WorkflowExecution) (step : WorkflowStep) : String :=
  stepKey execution.id execution.reviewCycle step.id

def delegateInput (target message key : String) (step : WorkflowStep)
    (conversationId : Option String) : AskToInput :=
  { target := target, message := message, model := none, reasoning := none
    idempotencyKey := some key, conversationId := conversationId
    launchSelection := if conversationId.isSome then none else step.launchSelection
    pinsProfile := conversationId.isNone && step.profileRef.isSome }

/-- `profileResolves`: the library still has the profile of a fresh helper. -/
def delegateStep (host : Host) (ids : FreshIds) (profileResolves : Bool) (token message : String)
    (execution : WorkflowExecution) (rt : CoreRuntime) :
    CoreAnswer (AskToPlanOutcome × WorkflowDelegateCommit) :=
  if execution.phase != .awaitingCoordinator || execution.coordinatorPromptPending then
    (.error .workflowExecutionState, rt)
  else
    match execution.delegatedStep with
    | none => (.error .workflowExecutionState, rt)
    | some step =>
      match step.agentId with
      | none => (.error .workflowExecutionState, rt)
      | some target =>
        let conversation := continuedConversation rt.store execution step
        if (execution.continuedStep step).isSome && conversation.isNone then
          (.error .conversationUnavailable, rt)
        else if conversation.isNone && step.launchSelection.isNone then
          (.error .workflowExecutionState, rt)
        else if conversation.isNone && !profileResolves then (.error .refused, rt)
        else
          match planAskTo host ids token
              (delegateInput target message (delegateKey execution step) step conversation)
              (step.kind == .review) rt with
          | (.error error, rt) => (.error error, rt)
          | (.ok outcome, rt) =>
            match (rt.request? outcome.requestId).filter
                (·.sourceSessionId == execution.coordinatorSessionId) with
            | none => (.error .askToRequestUnavailable, rt)
            | some request =>
              (.ok (outcome,
                { executionId := execution.id, stepId := step.id, requestId := outcome.requestId
                  conversationId := request.conversationId
                  coordinatorSessionId := execution.coordinatorSessionId }), rt)

def WorkflowExecution.retried (now : Nat) (execution : WorkflowExecution) : WorkflowExecution :=
  { execution with phase := .awaitingCoordinator, currentRequestId := none, updatedAt := now }

def planWorkflowDelegate (host : Host) (ids : FreshIds) (profileResolves : Bool)
    (token message : String) (now : Nat) (persisted : Bool) (rt : CoreRuntime) :
    CoreAnswer (AskToPlanOutcome × WorkflowDelegateCommit) :=
  match rt.authenticate token with
  | none => (.error .capabilityDenied, rt)
  | some principal =>
    match rt.workflowExecutions.find? (·.coordinatorSessionId == principal.sessionId) with
    | none => (.error .capabilityDenied, rt)
    | some execution =>
      if execution.phase == .awaitingHelper && execution.currentStepIs .discuss then
        -- a discussion may be tried again once its request is forgotten
        if execution.currentRequestId.any fun requestId => (rt.request? requestId).isSome then
          (.error .workflowExecutionState, rt)
        else
          match replaceWorkflowExecution execution (execution.retried now) persisted rt with
          | (.error error, rt) => (.error error, rt)
          | (.ok (), rt) =>
            delegateStep host ids profileResolves token message (execution.retried now) rt
      else delegateStep host ids profileResolves token message execution rt

def WorkflowExecution.committedStep (execution : WorkflowExecution) (stepId : String) :
    Option WorkflowStep :=
  match execution.currentStep with
  | none => none
  | some current =>
    if current.kind == .review then
      (execution.reviewGroup.find? (·.id == stepId)).filter fun step =>
        !execution.hasReviewFor step.id
    else if current.id == stepId && current.kind == .discuss then some current
    else none

/-- A step that reuses a conversation, or was delegated before, keeps its helper. -/
def WorkflowExecution.helperRefusal (execution : WorkflowExecution) (step : WorkflowStep)
    (helperSessionId : String) : Option CoreError :=
  let reuse :=
    match step.reuseStepId.map execution.participant? with
    | some none => some CoreError.workflowExecutionState
    | some (some reused) =>
      if reused.helperSessionId != helperSessionId then some .conversationUnavailable else none
    | none => none
  reuse.or
    (if (execution.participant? step.id).any
      (·.helperSessionId != helperSessionId) then some .conversationUnavailable else none)

def WorkflowExecution.delegated (execution : WorkflowExecution) (step : WorkflowStep)
    (requestId helperSessionId : String) (now : Nat) : WorkflowExecution :=
  let participants :=
    if (execution.participant? step.id).isSome then execution.participants
    else execution.participants ++ [{ stepId := step.id, helperSessionId := helperSessionId }]
  if step.kind == .review then
    let requests := execution.reviewRequests ++
      [{ stepId := step.id, requestId := requestId, replyDelivered := false }]
    { execution with
      participants := participants, reviewRequests := requests
      phase := if requests.length == execution.reviewGroup.length then .awaitingHelper
        else .awaitingCoordinator
      currentRequestId := none, updatedAt := now }
  else
    { execution with
      participants := participants, phase := .awaitingHelper, currentRequestId := some requestId
      updatedAt := now }

def completeWorkflowDelegate (token : String) (commit : WorkflowDelegateCommit) (now : Nat)
    (persisted : Bool) (rt : CoreRuntime) : CoreAnswer Unit :=
  match rt.authenticate token with
  | none => (.error .capabilityDenied, rt)
  | some principal =>
    if principal.sessionId != commit.coordinatorSessionId then (.error .capabilityDenied, rt)
    else
      match rt.workflowExecutions.find? (·.id == commit.executionId) with
      | none => (.error .workflowExecutionState, rt)
      | some expected =>
        match expected.committedStep commit.stepId with
        | none => (.error .workflowExecutionState, rt)
        | some step =>
          if expected.coordinatorSessionId != commit.coordinatorSessionId
              || expected.phase != .awaitingCoordinator || expected.coordinatorPromptPending then
            (.error .workflowExecutionState, rt)
          else
            match (rt.request? commit.requestId).filter fun request =>
                request.sourceSessionId == commit.coordinatorSessionId
                  && request.conversationId == commit.conversationId with
            | none => (.error .askToRequestUnavailable, rt)
            | some request =>
              match expected.helperRefusal step request.helperSessionId with
              | some error => (.error error, rt)
              | none => replaceWorkflowExecution expected
                  (expected.delegated step commit.requestId request.helperSessionId now)
                  persisted rt

section Plans
variable {host : Host} {ids : FreshIds} {profileResolves : Bool} {token msg : String}
  {now : Nat} {persisted : Bool} {rt : CoreRuntime} {execution : WorkflowExecution}
  {ans : CoreAnswer (AskToPlanOutcome × WorkflowDelegateCommit)}

variable (host : Host) (ids : FreshIds) (token : String) (execution : WorkflowExecution)
  (rt : CoreRuntime) in
/-- The step's plan refuses the execution, or is its Ask-To plan, to whose request it
    commits. -/
inductive StepPlans : CoreAnswer (AskToPlanOutcome × WorkflowDelegateCommit) → Prop where
  | refuses {error : CoreError} (own : error = .workflowExecutionState ∨
      error = .conversationUnavailable ∨ error = .refused) :
      StepPlans (.error error, rt)
  | fails {params : AskToInput} {allowParallel : Bool} {error : CoreError} {after : CoreRuntime}
      (planned : planAskTo host ids token params allowParallel rt = (.error error, after)) :
      StepPlans (.error error, after)
  | loses {params : AskToInput} {allowParallel : Bool} {outcome : AskToPlanOutcome}
      {after : CoreRuntime}
      (planned : planAskTo host ids token params allowParallel rt = (.ok outcome, after)) :
      StepPlans (.error .askToRequestUnavailable, after)
  | commits {step : WorkflowStep} {params : AskToInput} {allowParallel : Bool}
      {outcome : AskToPlanOutcome} {request : AskToRequest} {after : CoreRuntime}
      (planned : planAskTo host ids token params allowParallel rt = (.ok outcome, after))
      (key : params.idempotencyKey = some (delegateKey execution step)) :
      StepPlans (.ok (outcome,
        { executionId := execution.id, stepId := step.id, requestId := outcome.requestId
          conversationId := request.conversationId
          coordinatorSessionId := execution.coordinatorSessionId }), after)

theorem delegateStep_plans
    (ran : delegateStep host ids profileResolves token msg execution rt = ans) :
    StepPlans host ids token execution rt ans := by
  have refused : ∀ error, (error = .workflowExecutionState ∨ error = .conversationUnavailable ∨
      error = CoreError.refused) → (.error error, rt) = ans →
      StepPlans host ids token execution rt ans := by
    rintro error own rfl
    exact StepPlans.refuses own
  unfold delegateStep at ran
  iterate 2 (split at ran; · exact refused _ (.inl rfl) ran)
  next step _ =>
  split at ran
  · exact refused _ (.inl rfl) ran
  next target _ =>
  dsimp only at ran
  split at ran
  · exact refused _ (.inr (.inl rfl)) ran
  split at ran
  · exact refused _ (.inl rfl) ran
  split at ran
  · exact refused _ (.inr (.inr rfl)) ran
  split at ran
  · next planned =>
    subst ran
    exact StepPlans.fails planned
  · next planned =>
    split at ran
    · subst ran
      exact StepPlans.loses planned
    · subst ran
      exact StepPlans.commits planned rfl

variable (host : Host) (ids : FreshIds) (token : String) (now : Nat) (persisted : Bool)
  (rt : CoreRuntime) in
/-- Before its commit the call is refused, takes a discussion back first, or plans at once.
    -/
inductive DelegatePlans : CoreAnswer (AskToPlanOutcome × WorkflowDelegateCommit) → Prop where
  | refuses {error : CoreError}
      (own : error = .workflowExecutionState ∨ error = .capabilityDenied) :
      DelegatePlans (.error error, rt)
  | unretried {execution : WorkflowExecution} {error : CoreError} {after : CoreRuntime}
      (listed : execution ∈ rt.workflowExecutions) (phase : execution.phase = .awaitingHelper)
      (discuss : execution.currentStepIs .discuss = true)
      (failed : replaceWorkflowExecution execution (execution.retried now) persisted rt =
        (.error error, after)) :
      DelegatePlans (.error error, after)
  | retries {execution : WorkflowExecution} {middle : CoreRuntime}
      {answer : CoreAnswer (AskToPlanOutcome × WorkflowDelegateCommit)}
      (listed : execution ∈ rt.workflowExecutions) (phase : execution.phase = .awaitingHelper)
      (discuss : execution.currentStepIs .discuss = true)
      (done : replaceWorkflowExecution execution (execution.retried now) persisted rt =
        (.ok (), middle))
      (plans : StepPlans host ids token (execution.retried now) middle answer) :
      DelegatePlans answer
  | steps {execution : WorkflowExecution}
      {answer : CoreAnswer (AskToPlanOutcome × WorkflowDelegateCommit)}
      (listed : execution ∈ rt.workflowExecutions)
      (plans : StepPlans host ids token execution rt answer) :
      DelegatePlans answer

theorem planWorkflowDelegate_plans
    (ran : planWorkflowDelegate host ids profileResolves token msg now persisted rt = ans) :
    DelegatePlans host ids token now persisted rt ans := by
  unfold planWorkflowDelegate at ran
  split at ran
  · subst ran
    exact DelegatePlans.refuses (.inr rfl)
  split at ran
  · subst ran
    exact DelegatePlans.refuses (.inr rfl)
  next execution hit =>
  have mem := List.mem_of_find?_eq_some hit
  split at ran
  · next waits =>
    simp only [Bool.and_eq_true, beq_iff_eq] at waits
    split at ran
    · subst ran
      exact DelegatePlans.refuses (.inl rfl)
    · split at ran
      · next failed =>
        subst ran
        exact DelegatePlans.unretried mem waits.1 waits.2 failed
      · next done =>
        exact DelegatePlans.retries mem waits.1 waits.2 done (delegateStep_plans ran)
  · exact DelegatePlans.steps mem (delegateStep_plans ran)

end Plans

end TermloopWorkflow
