import Termloop.Core.WorkflowDelegate

/-!
The reports that move a workflow on. The coordinator reports one step after another;
the last review of a group joins it, a fix starts another review cycle while there is
one left, and the execution is completed behind its last step.
-/
namespace TermloopWorkflow
open TermloopRecordLists TermloopOutcome TermloopStore TermloopAskTo TermloopText List

inductive WorkflowCompletionOutcome where
  | completed | approved | changesRequested | reviewLimitReached

namespace WorkflowExecution

def reviewSteps (execution : WorkflowExecution) : List WorkflowStep :=
  execution.configuration.steps.filter (·.kind == .review)

def hasFix (execution : WorkflowExecution) : Bool :=
  execution.configuration.steps.any (·.kind == .fix)

def hasResult (execution : WorkflowExecution) (stepId : String) : Bool :=
  execution.stepResults.any fun result =>
    result.stepId == stepId && result.reviewCycle == execution.reviewCycle

def completionOutcome (execution : WorkflowExecution) : Option WorkflowCompletionOutcome :=
  if execution.phase != .completed then none
  else if execution.reviewChangesRequested then
    some (if execution.hasFix
        && decide (execution.configuration.maxReviewCycles ≤ execution.reviewCycle) then
      .reviewLimitReached else .changesRequested)
  else
    let approved := !execution.reviewSteps.isEmpty && execution.reviewSteps.all fun step =>
      execution.stepResults.any fun result =>
        result.stepId == step.id && result.reviewCycle == execution.reviewCycle
          && result.outcome == .approved
    some (if approved then .approved else .completed)

def upsertStepResult (execution : WorkflowExecution) (result : WorkflowStepResult) :
    WorkflowExecution :=
  { execution with
    stepResults :=
      if execution.stepResults.any (·.stepId == result.stepId) then
        updateFirst (·.stepId == result.stepId) (fun _ => result)
          execution.stepResults
      else execution.stepResults ++ [result] }

def complete (execution : WorkflowExecution) (stepCount : Nat) : WorkflowExecution :=
  { execution with
    currentStepIndex := stepCount, phase := .completed, coordinatorPromptPending := false
    currentRequestId := none, reviewRequests := [] }

/-- The execution behind a finished review group, and the fix step that it skips. -/
def finishReviewGroup (execution : WorkflowExecution) : WorkflowExecution × Option Nat :=
  let steps := execution.configuration.steps
  let nextIndex := execution.currentStepIndex + execution.reviewGroup.length
  let cleared := { execution with reviewRequests := [] }
  match steps[nextIndex]? with
  | some next =>
    if next.kind == .fix then
      if execution.reviewChangesRequested then
        ({ cleared with currentStepIndex := nextIndex, phase := .awaitingCoordinator }, none)
      else (cleared.complete steps.length, some nextIndex)
    else (cleared.complete steps.length, none)
  | none => (cleared.complete steps.length, none)

def advanceToNext (execution : WorkflowExecution) : WorkflowExecution :=
  let nextIndex := execution.currentStepIndex + 1
  if execution.configuration.steps.length ≤ nextIndex then
    execution.complete execution.configuration.steps.length
  else
    { execution with
      currentStepIndex := nextIndex, phase := .awaitingCoordinator, currentRequestId := none }

def advanceExecution (completedKind : WorkflowStepKind) (execution : WorkflowExecution) :
    WorkflowExecution × Option Nat :=
  let steps := execution.configuration.steps
  let nextIndex := execution.currentStepIndex + 1
  match completedKind with
  | .fix =>
    match steps.findIdx? (·.kind == .review) with
    | some reviewIndex =>
      if execution.reviewChangesRequested
          && decide (execution.reviewCycle < execution.configuration.maxReviewCycles) then
        ({ execution with
          currentStepIndex := reviewIndex, reviewCycle := execution.reviewCycle + 1
          reviewChangesRequested := false, reviewRequests := []
          phase := .awaitingCoordinator }, none)
      else (execution.complete steps.length, none)
    | none => (execution.complete steps.length, none)
  | .review =>
    match steps[nextIndex]? with
    | none => (execution.complete steps.length, none)
    | some next =>
      if next.kind == .fix && !execution.reviewChangesRequested then
        (execution.complete steps.length, some nextIndex)
      else (execution.advanceToNext, none)
  | .discuss | .implement => (execution.advanceToNext, none)

/-- The current step, or the group's first review without a report in this cycle. -/
def reportedStep (execution : WorkflowExecution) : Option WorkflowStep :=
  match execution.currentStep with
  | none => none
  | some current =>
    if current.kind == .review then
      execution.reviewGroup.find? fun step => !execution.hasResult step.id
    else some current

def takesReport (execution : WorkflowExecution) (kind : WorkflowStepKind) : Bool :=
  match kind with
  | .discuss | .review => execution.phase == .awaitingStepCompletion
  | .implement | .fix => execution.phase == .awaitingCoordinator

def withReport (execution : WorkflowExecution) (step : WorkflowStep)
    (outcome : WorkflowStepResultOutcome) (summary : String) (now : Nat) : WorkflowExecution :=
  let changed : WorkflowExecution := { execution with
    reviewChangesRequested := execution.reviewChangesRequested
      || (step.kind == .review && outcome == .changesRequested)
    updatedAt := now }
  changed.upsertStepResult
    { stepId := step.id, reviewCycle := execution.reviewCycle, outcome := outcome
      summary := summary, completedAt := now }

def groupIsReported (execution : WorkflowExecution) : Bool :=
  execution.reviewGroup.all fun step => execution.hasResult step.id

def afterReport (kind : WorkflowStepKind) (execution : WorkflowExecution) :
    WorkflowExecution × Option Nat :=
  if kind == .review then
    if execution.groupIsReported then execution.finishReviewGroup
    else ({ execution with phase := .awaitingStepCompletion }, none)
  else execution.advanceExecution kind

def skippedResult (execution : WorkflowExecution) (stepId : String) (now : Nat) :
    WorkflowStepResult :=
  { stepId := stepId, reviewCycle := execution.reviewCycle, outcome := .skipped
    summary := "No review changes were requested.", completedAt := now }

def markSkipped (expected moved : WorkflowExecution) (skipped : Option Nat) (now : Nat) :
    WorkflowExecution :=
  match skipped.bind fun index => moved.configuration.steps[index]? with
  | some step => moved.upsertStepResult (expected.skippedResult step.id now)
  | none => moved

def endsStep (execution : WorkflowExecution) (kind : WorkflowStepKind) : Bool :=
  kind != .review || execution.groupIsReported

def reported (execution : WorkflowExecution) (step : WorkflowStep)
    (outcome : WorkflowStepResultOutcome) (summary : String) (now : Nat) : WorkflowExecution :=
  let written := execution.withReport step outcome summary now
  let moved := written.afterReport step.kind
  let marked := execution.markSkipped moved.1 moved.2 now
  { marked with
    coordinatorPromptPending := marked.coordinatorPromptPending
      || (written.endsStep step.kind && marked.phase != .completed) }

end WorkflowExecution

def reportOutcome (kind : WorkflowStepKind) (outcome : String) :
    Option WorkflowStepResultOutcome :=
  match kind with
  | .review =>
    if outcome == "approved" then some .approved
    else if outcome == "changesRequested" then some .changesRequested
    else none
  | .discuss | .implement | .fix => if outcome == "completed" then some .completed else none

/-- The Task or Project is gone, or the text cannot be built. -/
inductive PromptFailure where
  | missing | unbuildable

def PromptFailure.error : PromptFailure → CoreError
  | .missing => .notFound
  | .unbuildable => .workflowExecutionState

def summaryIsInvalid (summary : String) : Bool :=
  summary.isEmpty || decide (2 * 1024 < summary.utf8ByteSize) || summary.toList.contains '\x00'

/-- The next prompt is composed before the execution is stored, and handed to the terminal
    after. -/
def completeWorkflowStep (token outcome text : String) (now : Nat)
    (prompt : Option PromptFailure) (submits persisted : Bool) (rt : CoreRuntime) :
    CoreAnswer Unit :=
  let summary := trim text
  if summaryIsInvalid summary then (.error (.invalidParams "summary"), rt)
  else
    match rt.authenticate token with
    | none => (.error .capabilityDenied, rt)
    | some principal =>
      match rt.workflowExecutions.find? (·.coordinatorSessionId == principal.sessionId) with
      | none => (.error .capabilityDenied, rt)
      | some expected =>
        match expected.reportedStep with
        | none => (.error .workflowExecutionState, rt)
        | some step =>
          if expected.coordinatorPromptPending || !expected.takesReport step.kind then
            (.error .workflowExecutionState, rt)
          else
            match reportOutcome step.kind outcome with
            | none => (.error .workflowExecutionState, rt)
            | some result =>
              let written := expected.withReport step result summary now
              let replacement := expected.reported step result summary now
              let prompts := written.endsStep step.kind && replacement.phase != .completed
              match if prompts then prompt else none with
              | some failure => (.error failure.error, rt)
              | none =>
                match replaceWorkflowExecution expected replacement persisted rt with
                | (.error error, rt) => (.error error, rt)
                | (.ok (), rt) =>
                  if prompts && !submits then (.error .refused, rt) else (.ok (), rt)

def awaitsPrompt (coordinatorSessionId : String) (execution : WorkflowExecution) : Bool :=
  execution.coordinatorSessionId == coordinatorSessionId
    && execution.phase == .awaitingCoordinator && execution.coordinatorPromptPending

def WorkflowExecution.prompted (now : Nat) (execution : WorkflowExecution) : WorkflowExecution :=
  { execution with coordinatorPromptPending := false, updatedAt := now }

/-- `isWorkflowPrompt`: the delivered input was made from the execution's template. -/
def completeWorkflowCoordinatorPromptDelivery (coordinatorSessionId : String)
    (isWorkflowPrompt : Bool) (now : Nat) (persisted : Bool) (rt : CoreRuntime) :
    CoreAnswer Bool :=
  match rt.workflowExecutions.find? (awaitsPrompt coordinatorSessionId) with
  | none => (.ok false, rt)
  | some expected =>
    if !isWorkflowPrompt then (.ok false, rt)
    else
      match replaceWorkflowExecution expected (expected.prompted now) persisted rt with
      | (.error error, rt) => (.error error, rt)
      | (.ok (), rt) => (.ok true, rt)

section Moves
variable {exec : WorkflowExecution} {step : WorkflowStep}
  {outcome : WorkflowStepResultOutcome} {summary : String} {now : Nat}

variable (execution : WorkflowExecution) (step : WorkflowStep) (now : Nat)
  (written : WorkflowExecution) in
inductive ReportMoves : WorkflowExecution → Prop where
  | waits (review : step.kind = .review) (missing : written.groupIsReported = false) :
      ReportMoves { written with phase := .awaitingStepCompletion }
  | toFix {fix : WorkflowStep} (review : step.kind = .review)
      (joined : written.groupIsReported = true)
      (next : written.configuration.steps[written.currentStepIndex + written.reviewGroup.length]? =
        some fix)
      (kind : fix.kind = .fix) (asked : written.reviewChangesRequested = true) :
      ReportMoves { written with
        reviewRequests := []
        currentStepIndex := written.currentStepIndex + written.reviewGroup.length
        phase := .awaitingCoordinator, coordinatorPromptPending := true }
  | skips {fix : WorkflowStep} (review : step.kind = .review)
      (joined : written.groupIsReported = true)
      (next : written.configuration.steps[written.currentStepIndex + written.reviewGroup.length]? =
        some fix)
      (kind : fix.kind = .fix) (content : written.reviewChangesRequested = false) :
      ReportMoves
        ((written.complete written.configuration.steps.length).upsertStepResult
          (execution.skippedResult fix.id now))
  | joins (review : step.kind = .review) (joined : written.groupIsReported = true)
      (last : ∀ next, written.configuration.steps[written.currentStepIndex +
        written.reviewGroup.length]? = some next → next.kind ≠ .fix) :
      ReportMoves (written.complete written.configuration.steps.length)
  | repeats {index : Nat} (fix : step.kind = .fix)
      (found : written.configuration.steps.findIdx? (·.kind == .review) =
        some index)
      (asked : written.reviewChangesRequested = true)
      (left : written.reviewCycle < written.configuration.maxReviewCycles) :
      ReportMoves { written with
        currentStepIndex := index, reviewCycle := written.reviewCycle + 1
        reviewChangesRequested := false, reviewRequests := [], phase := .awaitingCoordinator
        coordinatorPromptPending := true }
  | ends (fix : step.kind = .fix)
      (closed : written.reviewChangesRequested = true →
        written.reviewCycle < written.configuration.maxReviewCycles →
          written.configuration.steps.findIdx? (·.kind == .review) = none) :
      ReportMoves (written.complete written.configuration.steps.length)
  | advances (own : step.kind = .discuss ∨ step.kind = .implement)
      (next : written.currentStepIndex + 1 < written.configuration.steps.length) :
      ReportMoves { written with
        currentStepIndex := written.currentStepIndex + 1, phase := .awaitingCoordinator
        currentRequestId := none, coordinatorPromptPending := true }
  | finishes (own : step.kind = .discuss ∨ step.kind = .implement)
      (last : written.configuration.steps.length ≤ written.currentStepIndex + 1) :
      ReportMoves (written.complete written.configuration.steps.length)

theorem finishReviewGroup_moves (review : step.kind = .review)
    (joined : written.groupIsReported) (pending : written.coordinatorPromptPending = false) :
    ReportMoves exec step now written (let moved := written.finishReviewGroup
       let marked := exec.markSkipped moved.1 moved.2 now
       { marked with
         coordinatorPromptPending := marked.coordinatorPromptPending
           || marked.phase != .completed }) := by
  unfold WorkflowExecution.finishReviewGroup
  dsimp only
  split
  · next fix next =>
    split
    · next kind =>
      have kind : fix.kind = .fix := beq_iff_eq.mp kind
      split
      · next asked =>
        simp only [WorkflowExecution.markSkipped, Option.bind_none, pending, Bool.false_or]
        exact ReportMoves.toFix review joined next kind asked
      next content =>
      have skips := @ReportMoves.skips exec step now written fix review joined next kind
        (by simpa using content)
      simp only [WorkflowExecution.markSkipped, Option.bind_some]
      have kept : ({ written with reviewRequests := [] }.complete
          written.steps.length).configuration.steps[written.currentStepIndex +
            written.reviewGroup.length]? = some fix := next
      rw [kept]
      exact skips
    · next kind =>
      refine ReportMoves.joins review joined fun other here => ?_
      rw [next] at here
      cases here
      simpa using kind
  · next missing =>
    refine ReportMoves.joins review joined fun other here => ?_
    rw [missing] at here
    cases here

theorem advanceToNext_moves (own : step.kind = .discuss ∨ step.kind = .implement)
    (pending : written.coordinatorPromptPending = false) :
    ReportMoves exec step now written
      { written.advanceToNext with
        coordinatorPromptPending := written.advanceToNext.coordinatorPromptPending
          || written.advanceToNext.phase != .completed } := by
  unfold WorkflowExecution.advanceToNext
  dsimp only
  split
  · next last => exact ReportMoves.finishes own last
  next more =>
  simp only [pending, Bool.false_or]
  exact ReportMoves.advances own (Nat.lt_of_not_le more)

theorem advanceFix_moves (fix : step.kind = .fix)
    (pending : written.coordinatorPromptPending = false) :
    ReportMoves exec step now written (let moved := written.advanceExecution .fix
       let marked := exec.markSkipped moved.1 moved.2 now
       { marked with
         coordinatorPromptPending := marked.coordinatorPromptPending
           || marked.phase != .completed }) := by
  unfold WorkflowExecution.advanceExecution
  dsimp only
  split
  · next index hit =>
    split
    · next asked =>
      simp only [Bool.and_eq_true, decide_eq_true_eq] at asked
      simp only [WorkflowExecution.markSkipped, Option.bind_none, pending, Bool.false_or]
      exact ReportMoves.repeats fix hit asked.1 asked.2
    · next closed =>
      refine ReportMoves.ends fix fun asked left => ?_
      exact absurd (by simp [asked, left]) closed
  · next missing => exact ReportMoves.ends fix fun _ _ => missing

theorem reported_moves (pending : exec.coordinatorPromptPending = false) :
    ReportMoves exec step now (exec.withReport step outcome summary now)
      (exec.reported step outcome summary now) := by
  have quiet : (exec.withReport step outcome summary now).coordinatorPromptPending = false :=
    pending
  unfold WorkflowExecution.reported
  generalize exec.withReport step outcome summary now = written at quiet
  dsimp only [WorkflowExecution.afterReport, WorkflowExecution.endsStep]
  cases kind : step.kind with
  | review =>
    cases joined : written.groupIsReported with
    | true => exact finishReviewGroup_moves kind joined quiet
    | false =>
      have waits := @ReportMoves.waits exec step now written kind joined
      simpa [WorkflowExecution.markSkipped] using waits
  | discuss => exact advanceToNext_moves (.inl kind) quiet
  | implement => exact advanceToNext_moves (.inr kind) quiet
  | fix => exact advanceFix_moves kind quiet

end Moves

end TermloopWorkflow
