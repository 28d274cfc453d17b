import Termloop.Core.WorkflowWaits

/-!
Workflow executions over whole runs of the daemon. Five calls replace an execution: the
commit of a delegate, the delivery of a reply, a report, the delivery of a prompt, and
the retry inside a delegate plan. Each of them is one transition of one execution, and
the store accepts every execution that such a transition builds as long as the clock
does not go back and random ids are not given out twice.
-/
namespace TermloopProgress
open TermloopText List
open TermloopRecordLists TermloopOutcome TermloopRuns TermloopStore TermloopAskTo TermloopWorkflow
open TermloopValidity TermloopTables
open TermloopWaits (designIds designFirst)
open TermloopRouting (coordinatorCore readyHost)

inductive Transition where
  | delegate (stepId requestId helperSessionId : String)
  | reply (requestId : String)
  | retry
  | report (stepId : String) (cycle : Nat) (outcome : WorkflowStepResultOutcome)
  | prompt

variable (now : Nat) (execution : WorkflowExecution) in
inductive Moves : Transition → WorkflowExecution → Prop where
  | delegate {step : WorkflowStep} {stepId requestId helperSessionId : String}
      (commits : execution.committedStep stepId = some step)
      (phase : execution.phase = .awaitingCoordinator)
      (prompted : execution.coordinatorPromptPending = false)
      (helper : execution.helperRefusal step helperSessionId = none) :
      Moves (.delegate step.id requestId helperSessionId)
        (execution.delegated step requestId helperSessionId now)
  | reply {requestId : String} (waits : awaitsReply requestId execution = true) :
      Moves (.reply requestId) (afterReply requestId now execution)
  | retry (phase : execution.phase = .awaitingHelper)
      (discuss : execution.currentStepIs .discuss = true) :
      Moves .retry (execution.retried now)
  | report {step : WorkflowStep} {outcome : WorkflowStepResultOutcome} {summary : String}
      (allowed : ReportAllowed execution step outcome summary) :
      Moves (.report step.id execution.reviewCycle outcome)
        (execution.reported step outcome summary now)
  | prompt (pending : execution.coordinatorPromptPending = true) :
      Moves .prompt (execution.prompted now)

variable {step : WorkflowStep} {stepId reqId token : String} {exec : WorkflowExecution}
  {core : CoreRuntime} {ids : FreshIds} {host : Host}

section Transitions
variable {now : Nat} {after : WorkflowExecution} {move : Transition}

theorem reported_field {α : Type} {field : WorkflowExecution → α} {step : WorkflowStep}
    {saved : WorkflowExecution} (moves : ReportMoves exec step now saved after)
    (kept : ∀ (base : WorkflowExecution) (index cycle : Nat) (phase : WorkflowExecutionPhase)
      (pending changes : Bool) (req : Option String) (requests : List WorkflowReviewRequest)
      (results : List WorkflowStepResult),
      field { base with
        currentStepIndex := index, reviewCycle := cycle, phase := phase
        coordinatorPromptPending := pending, currentRequestId := req, reviewRequests := requests
        reviewChangesRequested := changes
        stepResults := results } = field base) : field after = field saved := by
  cases moves with
  | waits => exact kept saved _ _ .awaitingStepCompletion _ _ _ _ _
  | toFix => exact kept saved _ _ .awaitingCoordinator true _ _ [] _
  | skips => exact kept saved _ _ .completed false _ none [] _
  | joins => exact kept saved _ _ .completed false _ none [] _
  | repeats => exact kept saved _ _ .awaitingCoordinator true false _ [] _
  | ends => exact kept saved _ _ .completed false _ none [] _
  | advances => exact kept saved _ _ .awaitingCoordinator true _ none _ _
  | finishes => exact kept saved _ _ .completed false _ none [] _

theorem moves_same (moves : Moves now exec move after) : after.sameWorkflow exec := by
  have same : exec.sameWorkflow exec := by simp [WorkflowExecution.sameWorkflow]
  cases moves with
  | delegate =>
    unfold WorkflowExecution.delegated
    dsimp only
    split <;> exact same
  | reply =>
    unfold afterReply
    split <;> exact same
  | retry => exact same
  | @report step outcome summary allowed =>
    let field := fun candidate : WorkflowExecution => candidate.sameWorkflow exec
    have kept : field (exec.reported step outcome summary now) =
        field (exec.withReport step outcome summary now) :=
      reported_field (reported_moves allowed.prompted) fun _ _ _ _ _ _ _ _ _ => rfl
    exact kept.trans same
  | prompt => exact same

theorem moves_id (moves : Moves now exec move after) : after.id = exec.id := by
  have same := moves_same moves
  simp only [WorkflowExecution.sameWorkflow, Bool.and_eq_true, beq_iff_eq, and_assoc] at same
  exact same.1

theorem moves_updatedAt (moves : Moves now exec move after) : after.updatedAt = now := by
  cases moves with
  | delegate =>
    unfold WorkflowExecution.delegated
    dsimp only
    split <;> rfl
  | reply =>
    unfold afterReply
    split <;> rfl
  | retry => rfl
  | @report step outcome summary allowed =>
    exact @reported_field exec now _ _ WorkflowExecution.updatedAt step _
      (reported_moves allowed.prompted) fun _ _ _ _ _ _ _ _ _ => rfl
  | prompt => rfl

theorem report_cycle (moves : ReportMoves exec step now saved after) :
    after.reviewRequests = [] ∨ after.reviewRequests = saved.reviewRequests ∧
      after.reviewCycle = saved.reviewCycle := by
  cases moves with
  | waits => exact .inr ⟨rfl,rfl⟩
  | advances => exact .inr ⟨rfl,rfl⟩
  | toFix => exact .inl rfl
  | skips => exact .inl rfl
  | joins => exact .inl rfl
  | repeats => exact .inl rfl
  | ends => exact .inl rfl
  | finishes => exact .inl rfl

theorem moves_requests (moves : Moves now exec move after) (mem : req ∈ after.reviewRequests) :
    (∃ earlier ∈ exec.reviewRequests,
      earlier.stepId = req.stepId ∧ earlier.requestId = req.requestId) ∨
    ∃ helperId, move = .delegate req.stepId req.requestId helperId := by
  have old : req ∈ exec.reviewRequests → (∃ earlier ∈ exec.reviewRequests,
      earlier.stepId = req.stepId ∧ earlier.requestId = req.requestId) ∨
      ∃ helperId, move = .delegate req.stepId req.requestId helperId :=
    fun here => .inl ⟨req,here,rfl,rfl⟩
  cases moves with
  | @delegate step stepId reqId helperId =>
    unfold WorkflowExecution.delegated at mem
    dsimp only at mem
    split at mem
    · rcases mem_append.mp mem with here | new
      · exact old here
      · cases mem_singleton.mp new
        exact .inr ⟨helperId,rfl⟩
    · exact old mem
  | reply =>
    unfold afterReply at mem
    split at mem
    · rcases mem_updateFirst mem with here | ⟨earlier,hit,rfl⟩
      · exact old here
      · exact .inl ⟨earlier,mem_of_find?_eq_some hit,rfl,rfl⟩
    · exact old mem
  | retry => exact old mem
  | @report step outcome summary allowed =>
    rcases report_cycle (reported_moves allowed.prompted) with none_left | ⟨same,-⟩
    · rw [none_left] at mem
      cases mem
    · exact old (same ▸ mem)
  | prompt => exact old mem

structure ProperRequest (execution : WorkflowExecution) (requestId helperSessionId : String) :
    Prop where
  named : WorkflowExecution.validRequestId requestId = true
  nonblank : isBlank helperSessionId = false
  fresh : ∀ request ∈ execution.reviewRequests, request.requestId ≠ requestId

theorem moves_storable (valid : Valid exec) (paced : Paced exec)
    (later : exec.updatedAt ≤ now) (moves : Moves now exec move after)
    (proper : ∀ stepId reqId helperId, move = .delegate stepId reqId helperId →
        ProperRequest exec reqId helperId) : Valid after := by
  cases moves with
  | @delegate step stepId reqId helperId commits phase prompted helper =>
    obtain ⟨named,nonblank,fresh⟩ := proper _ _ _ rfl
    exact delegate_valid valid ⟨commits,phase,prompted,helper,named,nonblank,fresh⟩ later
  | reply waits => exact reply_valid valid waits later
  | retry phase discuss => exact retry_valid valid discuss later
  | report allowed => exact report_valid valid paced allowed later
  | prompt => exact prompt_valid valid later

theorem transition_paced (paced : Paced exec) (moves : Moves now exec move after) :
    Paced after := by
  cases moves with
  | delegate =>
    unfold WorkflowExecution.delegated
    dsimp only
    split <;> exact paced
  | reply =>
    unfold afterReply
    split <;> exact paced
  | retry => exact paced
  | report allowed => exact report_paced paced allowed
  | prompt => exact paced

end Transitions

theorem summary_bounded (accepted : summaryIsInvalid (trim text) = false) :
    boundedText (trim text) (2 * 1024) := by
  simp only [summaryIsInvalid, Bool.or_eq_false_iff, decide_eq_false_iff_not] at accepted
  obtain ⟨⟨kept,size⟩,clean⟩ := accepted
  simp only [boundedText, trim_nonblank kept, clean, Bool.not_false, Bool.true_and, Bool.and_true,
    decide_eq_true_eq]
  omega

theorem stepKey_step (low : cycle ≤ 3) (high : other ≤ 3) (same : stepKey executionId cycle stepId =
      stepKey executionId other otherId) :
    stepId = otherId := by
  have digit : ∀ n : Nat, n ≤ 3 → ∃ c : Char, (toString n).toList = [c] := by
    intro n small
    have each : n = 0 ∨ n = 1 ∨ n = 2 ∨ n = 3 := by omega
    rcases each with rfl | rfl | rfl | rfl
    all_goals exact ⟨_,rfl⟩
  obtain ⟨c,first⟩ := digit cycle low
  obtain ⟨d,second⟩ := digit other high
  have chars := congrArg String.toList same
  simp only [stepKey, String.toList_append, first, second, append_assoc] at chars
  have behind := append_cancel_left (append_cancel_left (append_cancel_left chars))
  simp only [cons_append, nil_append, List.cons.injEq] at behind
  exact String.toList_inj.mp (append_cancel_left behind.2)

/-- The daemon with the answered commits, the request ids given out, and the time of the
    last call. -/
structure Daemon where
  core : CoreRuntime
  commits : List WorkflowDelegateCommit
  issued : List String
  clock : Nat

inductive Call where
  | start (id projectId : String) (taskId : Option String) (configuration : WorkflowConfiguration)
      (goal coordinatorSessionId : String) (now : Nat)
  | plan (host : Host) (ids : FreshIds) (profileResolves : Bool) (token message : String)
      (now : Nat) (persisted : Bool)
  | commit (token : String) (commit : WorkflowDelegateCommit) (now : Nat) (persisted : Bool)
  | deliver (requestId : String) (now : Nat) (persisted : Bool)
  | report (token outcome text : String) (now : Nat) (prompt : Option PromptFailure)
      (submits persisted : Bool)
  | prompt (coordinatorSessionId : String) (isWorkflowPrompt : Bool) (now : Nat)
      (persisted : Bool)
  | ask (host : Host) (ids : FreshIds) (token : String) (params : AskToInput)
      (allowParallel : Bool)
  /-- Any other call; it leaves this core. -/
  | elsewhere (core : CoreRuntime)

def failure {α : Type} : Except CoreError α → Option CoreError
  | .error error => some error
  | .ok _ => none

def committed (commits : List WorkflowDelegateCommit) :
    Except CoreError (AskToPlanOutcome × WorkflowDelegateCommit) → List WorkflowDelegateCommit
  | .ok (_, commit) => commits ++ [commit]
  | .error _ => commits

def settle {α : Type} (daemon : Daemon) (now : Nat) (answer : CoreAnswer α) :
    Option CoreError × Daemon :=
  (failure answer.1, { daemon with core := answer.2, clock := now })

def perform (daemon : Daemon) : Call → Option CoreError × Daemon
  | .start id projectId taskId configuration goal coordinatorSessionId now =>
    (none, { daemon with
      core := { daemon.core with
        workflowExecutions := daemon.core.workflowExecutions ++
          [startExecution id projectId taskId configuration goal coordinatorSessionId now] }
      clock := now })
  | .plan host ids profileResolves token message now persisted =>
    let answer := planWorkflowDelegate host ids profileResolves token message now persisted
      daemon.core
    (failure answer.1,
      { core := answer.2, commits := committed daemon.commits answer.1
        issued := ids.requestId :: daemon.issued
        clock := now })
  | .commit token commit now persisted =>
    settle daemon now (completeWorkflowDelegate token commit now persisted daemon.core)
  | .deliver requestId now persisted =>
    settle daemon now (completeWorkflowHelperReplyDelivery requestId now persisted daemon.core)
  | .report token outcome text now prompt submits persisted =>
    settle daemon now
      (completeWorkflowStep token outcome text now prompt submits persisted daemon.core)
  | .prompt coordinatorSessionId isWorkflowPrompt now persisted =>
    settle daemon now
      (completeWorkflowCoordinatorPromptDelivery coordinatorSessionId isWorkflowPrompt now persisted
        daemon.core)
  | .ask host ids token params allowParallel =>
    let answer := planAskTo host ids token params allowParallel daemon.core
    (failure answer.1, { daemon with core := answer.2, issued := ids.requestId :: daemon.issued })
  | .elsewhere core => (none, { daemon with core := core })

structure NewIds (daemon : Daemon) (ids : FreshIds) : Prop where
  new : ids.requestId ∉ daemon.issued
  named : WorkflowExecution.validRequestId ids.requestId = true
  nonblank : isBlank ids.helperSessionId = false
  sessions : ∀ session ∈ daemon.core.store.sessions, isBlank session.id = false

/-- A call that leaves the executions and gives no request another key or helper. -/
structure Elsewhere (core after : CoreRuntime) : Prop where
  executions : after.workflowExecutions = core.workflowExecutions
  requests : ∀ requestId request, after.request? requestId = some request →
    ∃ earlier, core.request? requestId = some earlier ∧
      request.idempotencyKey = earlier.idempotencyKey ∧
      request.helperSessionId = earlier.helperSessionId

def Possible (daemon : Daemon) : Call → Prop
  | .start id projectId taskId configuration goal coordinatorSessionId now =>
    daemon.clock ≤ now ∧
      (startExecution id projectId taskId configuration goal coordinatorSessionId now).isValid =
        true
  | .plan _ ids _ _ _ now _ => daemon.clock ≤ now ∧ NewIds daemon ids
  | .commit _ commit now _ => daemon.clock ≤ now ∧ commit ∈ daemon.commits
  | .deliver _ now _ | .report _ _ _ now _ _ _ | .prompt _ _ now _ => daemon.clock ≤ now
  | .ask _ ids _ _ _ => NewIds daemon ids
  | .elsewhere core => Elsewhere daemon.core core

def Step (daemon : Daemon) (call : Call) (after : Daemon) : Prop :=
  Possible daemon call ∧ (perform daemon call).2 = after

section Replacing
variable {after : CoreRuntime} {want new : WorkflowExecution} {saves : Bool}
  {result : Except CoreError Unit}

theorem replace_frame
    (replaced : replaceWorkflowExecution want replacement saves core = (result, after)) :
    after.requests = core.requests ∧ after.store.sessions = core.store.sessions ∧
      ∀ exec ∈ after.workflowExecutions, exec = replacement ∨ exec ∈ core.workflowExecutions := by
  have stays : core = after → after.requests = core.requests ∧
      after.store.sessions = core.store.sessions ∧
      ∀ exec ∈ after.workflowExecutions, exec = replacement ∨ exec ∈ core.workflowExecutions := by
    rintro rfl
    exact ⟨rfl,rfl,fun _ mem => .inr mem⟩
  unfold replaceWorkflowExecution at replaced
  iterate 5 (split at replaced; · exact stays (congrArg Prod.snd replaced))
  cases replaced
  refine ⟨rfl,rfl,fun exec mem => ?_⟩
  rcases mem_updateFirst mem with old | ⟨_,-,new⟩
  · exact .inr old
  · exact .inl new

theorem replace_accepted (valid : new.isValid) (same : new.sameWorkflow want)
    (replaced : replaceWorkflowExecution want new saves core = (result, after)) :
    result ≠ .error (.store .constraintViolation) := by
  unfold replaceWorkflowExecution at replaced
  rw [valid, same] at replaced
  split at replaced
  · next refused => cases refused
  split at replaced
  · cases replaced
    exact nofun
  split at replaced
  · cases replaced
    exact nofun
  split at replaced
  · cases replaced
    exact nofun
  · split at replaced
    · cases replaced
      exact nofun
    · cases replaced
      exact nofun

end Replacing

/-- Nothing, or the replacement that a transition builds. A commit knows its request from
    the table. -/
inductive Attempts (daemon : Daemon) (now : Nat) : Option CoreError → CoreRuntime → Prop where
  | stays {error : Option CoreError} (own : error ≠ some (.store .constraintViolation)) :
      Attempts daemon now error daemon.core
  | replaces {expected replacement : WorkflowExecution} {transition : Transition}
      {persisted : Bool} {error : Option CoreError} {result : Except CoreError Unit}
      {after : CoreRuntime} (listed : expected ∈ daemon.core.workflowExecutions)
      (moves : Moves now expected transition replacement)
      (known : ∀ stepId requestId helperSessionId,
        transition = .delegate stepId requestId helperSessionId →
          (∃ commit ∈ daemon.commits, commit.executionId = expected.id ∧
            commit.stepId = stepId ∧ commit.requestId = requestId) ∧
          ∃ request, daemon.core.request? requestId = some request ∧
            request.helperSessionId = helperSessionId)
      (replaced : replaceWorkflowExecution expected replacement persisted daemon.core =
        (result, after))
      (reason : error = some (.store .constraintViolation) →
        result = .error (.store .constraintViolation)) :
      Attempts daemon now error after

section Calls
variable {daemon : Daemon} {now : Nat} {saves : Bool}

theorem helperRefusal_own :
    exec.helperRefusal step helperId ≠ some (.store .constraintViolation) := by
  intro refused
  unfold WorkflowExecution.helperRefusal at refused
  dsimp only at refused
  rcases Option.or_eq_some_iff.mp refused with reuse | ⟨-,again⟩
  · split at reuse
    · cases reuse
    · split at reuse <;> cases reuse
    · cases reuse
  · split at again <;> cases again

theorem failed_of_failure (failed : failure result = some error) : result = .error error := by
  cases result with
  | error other =>
    cases failed
    rfl
  | ok _ => cases failed

theorem refused_attempts (own : error ≠ .store .constraintViolation) :
    Attempts daemon now (some error) daemon.core :=
  Attempts.stays fun same => own (Option.some.inj same)

theorem commit_attempts (mem : commit ∈ daemon.commits) :
    Attempts daemon now (failure (completeWorkflowDelegate token commit now saves daemon.core).1)
      (completeWorkflowDelegate token commit now saves daemon.core).2 := by
  unfold completeWorkflowDelegate
  iterate 3 (split; · exact refused_attempts nofun)
  next want hit =>
  split
  · exact refused_attempts nofun
  next step commits =>
  split
  · exact refused_attempts nofun
  next open_ =>
  simp only [Bool.or_eq_true, bne_iff_ne, not_or, ne_eq, not_not, Bool.not_eq_true] at open_
  obtain ⟨⟨-,phase⟩,prompted⟩ := open_
  split
  · exact refused_attempts nofun
  next req asked =>
  obtain ⟨at_id,-⟩ := Option.filter_eq_some_iff.mp asked
  split
  · next error refusal =>
    refine refused_attempts ?_
    rintro rfl
    exact absurd refusal (helperRefusal_own)
  · next helper =>
    have mine := find?_some hit
    refine Attempts.replaces (mem_of_find?_eq_some hit)
      (Moves.delegate commits phase prompted helper) ?_ rfl ?_
    · intro stepId reqId helperId same
      cases same
      refine ⟨⟨commit,mem,?_,(committedStep_cases commits).1.symm,rfl⟩,req,at_id,rfl⟩
      exact (beq_iff_eq.mp mine).symm
    · exact failed_of_failure

theorem deliver_attempts (reqId : String) : Attempts daemon now
      (failure (completeWorkflowHelperReplyDelivery reqId now saves daemon.core).1)
      (completeWorkflowHelperReplyDelivery reqId now saves daemon.core).2 := by
  unfold completeWorkflowHelperReplyDelivery
  split
  · exact Attempts.stays nofun
  next want hit =>
  have mem := mem_of_find?_eq_some hit
  have waits := find?_some hit
  split
  · next done => exact Attempts.replaces mem (Moves.reply waits) nofun done nofun
  next refused =>
  exact Attempts.replaces mem (Moves.reply waits) nofun refused
    fun failed => congrArg Except.error (Option.some.inj failed)

theorem prompt_attempts (coordId : String) (isWorkflowPrompt : Bool) : Attempts daemon now
      (failure (completeWorkflowCoordinatorPromptDelivery coordId isWorkflowPrompt now
        saves daemon.core).1)
      (completeWorkflowCoordinatorPromptDelivery coordId isWorkflowPrompt now
        saves daemon.core).2 := by
  unfold completeWorkflowCoordinatorPromptDelivery
  split
  · exact Attempts.stays nofun
  next want hit =>
  have mem := mem_of_find?_eq_some hit
  have waits := find?_some hit
  simp only [awaitsPrompt, Bool.and_eq_true] at waits
  split
  · exact Attempts.stays nofun
  split
  · next refused =>
    exact Attempts.replaces mem (Moves.prompt waits.2) nofun refused
      fun failed => congrArg Except.error (Option.some.inj failed)
  · next done => exact Attempts.replaces mem (Moves.prompt waits.2) nofun done nofun

theorem report_attempts (token outcome text : String) (prompt : Option PromptFailure)
    (submits : Bool) :
    Attempts daemon now (failure (completeWorkflowStep token outcome text now prompt submits saves
        daemon.core).1)
      (completeWorkflowStep token outcome text now prompt submits saves daemon.core).2 := by
  unfold completeWorkflowStep
  dsimp only
  split
  · exact refused_attempts nofun
  next accepted =>
  have bounded := summary_bounded (Bool.not_eq_true _ ▸ accepted)
  iterate 2 (split; · exact refused_attempts nofun)
  next want hit =>
  have mem := mem_of_find?_eq_some hit
  split
  · exact refused_attempts nofun
  next step reports =>
  split
  · exact refused_attempts nofun
  next open_ =>
  simp only [Bool.or_eq_true, Bool.not_eq_true', not_or, Bool.not_eq_true,
    Bool.not_eq_false] at open_
  split
  · exact refused_attempts nofun
  next result parsed =>
  have allowed : ReportAllowed want step result (trim text) :=
    ⟨reports,open_.1,open_.2,⟨outcome,parsed⟩,bounded⟩
  split
  · next failed _ =>
    refine refused_attempts ?_
    cases failed <;> exact nofun
  split
  · next stopped =>
    exact Attempts.replaces mem (Moves.report allowed) nofun stopped failed_of_failure
  · next done =>
    split
    · exact Attempts.replaces mem (Moves.report allowed) nofun done nofun
    · exact Attempts.replaces mem (Moves.report allowed) nofun done nofun

end Calls

/-- The request that stands for a step of an execution was asked under the step's key. -/
structure Keyed (daemon : Daemon) (executionId stepId requestId : String) : Prop where
  issued : requestId ∈ daemon.issued
  key : ∀ request, daemon.core.request? requestId = some request →
    ∃ cycle, cycle ≤ 3 ∧ request.idempotencyKey = some (stepKey executionId cycle stepId)

structure Orderly (clock : Nat) (execution : WorkflowExecution) : Prop where
  valid : Valid execution
  paced : Paced execution
  updated : execution.updatedAt ≤ clock

/-- Executions are valid, and each request stands for the step it was asked for. -/
structure Sound (daemon : Daemon) : Prop where
  orderly : ∀ execution ∈ daemon.core.workflowExecutions, Orderly daemon.clock execution
  reviews : ∀ execution ∈ daemon.core.workflowExecutions, ∀ request ∈ execution.reviewRequests,
    Keyed daemon execution.id request.stepId request.requestId
  commits : ∀ commit ∈ daemon.commits,
    Keyed daemon commit.executionId commit.stepId commit.requestId
  requests : ∀ requestId request, daemon.core.request? requestId = some request →
    requestId ∈ daemon.issued ∧ WorkflowExecution.validRequestId requestId = true ∧
      isBlank request.helperSessionId = false

section Keys
variable {daemon after : Daemon} {now : Nat}

/-- Ids stay given out, and a request whose id was given out keeps its key. -/
structure Follows (daemon after : Daemon) : Prop where
  issued : ∀ requestId ∈ daemon.issued, requestId ∈ after.issued
  requests : ∀ requestId request, after.core.request? requestId = some request →
    requestId ∈ daemon.issued → ∃ earlier, daemon.core.request? requestId = some earlier ∧
      request.idempotencyKey = earlier.idempotencyKey

theorem keyed_follows (keyed : Keyed daemon executionId stepId reqId)
    (follows : Follows daemon after) :
    Keyed after executionId stepId reqId := by
  refine ⟨follows.issued _ keyed.issued,fun req hit => ?_⟩
  obtain ⟨earlier,pre,same⟩ := follows.requests reqId req hit keyed.issued
  obtain ⟨cycle,small,key⟩ := keyed.key earlier pre
  exact ⟨cycle,small,same.trans key⟩

theorem cycle_small (valid : Valid exec) : exec.reviewCycle ≤ 3 := by
  have config := valid.named.2.2.2.1
  simp only [WorkflowConfiguration.isValid, Bool.and_eq_true, decide_eq_true_eq] at config
  have bound := valid.cycle.2
  omega

section
variable (sound : Sound daemon)
include sound

theorem commit_fresh (mem : exec ∈ daemon.core.workflowExecutions)
    (commits : exec.committedStep stepId = some step) (keyed : Keyed daemon exec.id step.id reqId)
    (hit : daemon.core.request? reqId = some req) :
    ∀ review ∈ exec.reviewRequests, review.requestId ≠ reqId := by
  intro review here same
  have valid := (sound.orderly exec mem).valid
  rcases (committedStep_cases commits).2 with ⟨-,-,-,missing⟩ | ⟨cur,discuss⟩
  · have theirs := sound.reviews exec mem review here
    rw [same] at theirs
    obtain ⟨cycle,small,key⟩ := keyed.key req hit
    obtain ⟨other,low,again⟩ := theirs.key req hit
    rw [key] at again
    have step_eq := stepKey_step small low (Option.some.inj again)
    have absent := any_eq_false.mp missing review here
    exact absent (beq_iff_eq.mpr step_eq.symm)
  · have apart : exec.currentStepIs .review = false :=
      currentStepIs_unique (by decide) (currentStepIs_iff.mpr ⟨step,cur,discuss⟩)
    rw [requests_nil valid.placed apart] at here
    cases here

theorem sound_follows (follows : Follows daemon after)
    (later : daemon.clock ≤ after.clock) (commits : after.commits = daemon.commits)
    (executions : ∀ exec ∈ after.core.workflowExecutions,
      exec ∈ daemon.core.workflowExecutions ∨ Orderly after.clock exec ∧
        ∀ req ∈ exec.reviewRequests, Keyed after exec.id req.stepId req.requestId)
    (requests : ∀ reqId req, after.core.request? reqId = some req →
      reqId ∈ after.issued ∧ WorkflowExecution.validRequestId reqId ∧
        isBlank req.helperSessionId = false) : Sound after := by
  refine ⟨fun exec mem => ?_,fun exec mem review asked => ?_,fun commit made => ?_, requests⟩
  · rcases executions exec mem with old | ⟨orderly,-⟩
    · have orderly := sound.orderly exec old
      exact ⟨orderly.valid,orderly.paced,orderly.updated.trans later⟩
    · exact orderly
  · rcases executions exec mem with old | ⟨-,keyed⟩
    · exact keyed_follows (sound.reviews exec old review asked) follows
    · exact keyed review asked
  · exact keyed_follows (sound.commits commit (commits ▸ made)) follows

theorem clock_sound (later : daemon.clock ≤ now) : Sound { daemon with clock := now } := by
  have follows : Follows daemon { daemon with clock := now } :=
    ⟨fun _ given => given,fun reqId req hit _ => ⟨req,hit,rfl⟩⟩
  exact sound_follows sound follows later rfl (fun _ mem => .inl mem) sound.requests

theorem attempts_sound (later : daemon.clock ≤ now) (attempts : Attempts daemon now error core) :
    error ≠ some (.store .constraintViolation) ∧
      Sound { daemon with core := core, clock := now } := by
  cases attempts with
  | stays own => exact ⟨own,clock_sound sound later⟩
  | @replaces want replacement move saves _ result _ mem moves known replaced reason =>
    obtain ⟨requests,sessions,members⟩ := replace_frame replaced
    have orderly := sound.orderly want mem
    have follows : Follows daemon { daemon with core := core, clock := now } := by
      refine ⟨fun _ given => given,fun reqId req hit _ => ?_⟩
      rw [request?_of_requests requests] at hit
      exact ⟨req,hit,rfl⟩
    have delegated : ∀ stepId reqId helperId, move = .delegate stepId reqId helperId →
          Keyed daemon want.id stepId reqId := by
      intro stepId reqId helperId same
      obtain ⟨⟨commit,made,exec,step,req⟩,-⟩ := known _ _ _ same
      have keyed := sound.commits commit made
      rwa [exec, step, req] at keyed
    have proper : ∀ stepId reqId helperId, move = .delegate stepId reqId helperId →
          ProperRequest want reqId helperId := by
      intro stepId reqId helperId same
      obtain ⟨-,req,hit,helper⟩ := known _ _ _ same
      obtain ⟨-,named,nonblank⟩ := sound.requests reqId req hit
      refine ⟨named,helper ▸ nonblank,?_⟩
      subst same
      cases moves with
      | delegate commits =>
        exact commit_fresh sound mem commits (delegated _ _ _ rfl) hit
    have valid := moves_storable orderly.valid orderly.paced (orderly.updated.trans later) moves
      proper
    have paced := transition_paced orderly.paced moves
    refine ⟨fun failed => ?_,sound_follows sound follows later rfl (fun exec here => ?_)
      fun reqId req hit => ?_⟩
    · exact replace_accepted (isValid_iff.mpr valid) (moves_same moves) replaced (reason failed)
    · rcases members exec here with rfl | old
      · refine .inr ⟨⟨valid,paced,(moves_updatedAt moves).le⟩,fun review asked => ?_⟩
        rw [moves_id moves]
        rcases moves_requests moves asked with ⟨earlier,pre,step,req⟩ | ⟨helper,new⟩
        · have keyed := sound.reviews want mem earlier pre
          rw [step, req] at keyed
          exact keyed_follows keyed follows
        · exact keyed_follows (delegated _ _ _ new) follows
      · exact .inl old
    · rw [request?_of_requests requests] at hit
      exact sound.requests reqId req hit

theorem settle_sound
    (later : daemon.clock ≤ now) (attempts : Attempts daemon now (failure ans.1) ans.2) :
    (settle daemon now ans).1 ≠ some (.store .constraintViolation) ∧
      Sound (settle daemon now ans).2 :=
  attempts_sound sound later attempts

end

theorem newIds_frame (new : NewIds daemon ids) (issued : after.issued = daemon.issued)
    (sessions : after.core.store.sessions = daemon.core.store.sessions) : NewIds after ids := by
  refine ⟨issued ▸ new.new,new.named,new.nonblank,fun sess mem => ?_⟩
  rw [sessions] at mem
  exact new.sessions sess mem

theorem issued_sound (sound : Sound daemon) (new : NewIds daemon ids)
    (executions : core.workflowExecutions = daemon.core.workflowExecutions)
    (requests : ∀ reqId req, core.request? reqId = some req → daemon.core.request?
      reqId = some req ∨ reqId = ids.requestId ∧ Helper ids daemon.core
      req.helperSessionId) :
    Sound { daemon with core := core, issued := ids.requestId :: daemon.issued } := by
  have follows :
      Follows daemon { daemon with core := core, issued := ids.requestId :: daemon.issued } := by
    refine ⟨fun _ given => mem_cons_of_mem _ given,fun reqId req hit given => ?_⟩
    rcases requests reqId req hit with old | ⟨rfl,-⟩
    · exact ⟨req,old,rfl⟩
    · exact absurd given new.new
  refine sound_follows sound follows le_rfl rfl (fun _ mem => .inl (executions ▸ mem)) ?_
  intro reqId req hit
  rcases requests reqId req hit with old | ⟨rfl,fresh | ⟨sess,here,same⟩⟩
  · obtain ⟨given,named,nonblank⟩ := sound.requests reqId req old
    exact ⟨mem_cons_of_mem _ given,named,nonblank⟩
  · exact ⟨mem_cons_self,new.named,fresh ▸ new.nonblank⟩
  · exact ⟨mem_cons_self,new.named,same ▸ new.sessions sess here⟩

theorem planAskTo_executions (ran : planAskTo host ids token params allowParallel core = ans) :
    ans.2.workflowExecutions = core.workflowExecutions := by
  obtain ⟨⟨base,based,plans⟩,-⟩ := planAskTo_tables ran
  have same : base.workflowExecutions = core.workflowExecutions := by
    rcases based with rfl | ⟨sid,rfl,-⟩
    · rfl
    · rfl
  rcases plans with tables | ⟨req,-,known⟩
  · exact tables.executions.trans same
  · exact known.executions.trans same

theorem asks_sound (sound : Sound daemon) (new : NewIds daemon ids)
    (ran : planAskTo host ids token params allowParallel daemon.core = ans) :
    Sound { daemon with core := ans.2, issued := ids.requestId :: daemon.issued } ∧
      failure ans.1 ≠ some (.store .constraintViolation) := by
  constructor
  · refine issued_sound sound new (planAskTo_executions ran) ?_
    exact fun reqId req hit => planAskTo_request ran hit
  · intro failed
    have planned := (planAskTo_tables ran).2 _ (failed_of_failure failed)
    cases planned

theorem stepPlans_sound (sound : Sound daemon) (new : NewIds daemon ids) (valid : Valid exec)
    (plans : StepPlans host ids token exec daemon.core ans) :
    failure ans.1 ≠ some (.store .constraintViolation) ∧
      Sound
        { core := ans.2, commits := committed daemon.commits ans.1
          issued := ids.requestId :: daemon.issued
          clock := daemon.clock } := by
  cases plans with
  | refuses own =>
    refine ⟨?_,issued_sound sound new rfl fun _ _ hit => .inl hit⟩
    rcases own with rfl | rfl | rfl <;> exact nofun
  | fails planned =>
    have asked := asks_sound sound new planned
    exact ⟨asked.2,asked.1⟩
  | loses planned => exact ⟨nofun,(asks_sound sound new planned).1⟩
  | @commits step params allowParallel outcome req core planned key =>
    have asked := (asks_sound sound new planned).1
    refine ⟨nofun,asked.orderly,?_,?_,asked.requests⟩
    · exact fun exec mem review here =>
        ⟨(asked.reviews exec mem review here).issued, (asked.reviews exec mem review here).key⟩
    · intro commit made
      rcases mem_append.mp made with old | last
      · exact ⟨(asked.commits commit old).issued,(asked.commits commit old).key⟩
      cases mem_singleton.mp last
      obtain ⟨mine,hit,named⟩ := planAskTo_key planned key
      refine ⟨(asked.requests _ mine hit).1,fun other again => ?_⟩
      rw [hit] at again
      cases again
      exact ⟨exec.reviewCycle,cycle_small valid,named⟩

theorem plan_sound (sound : Sound daemon) (later : daemon.clock ≤ now) (new : NewIds daemon ids)
    (plans : DelegatePlans host ids token now saves daemon.core ans) :
    failure ans.1 ≠ some (.store .constraintViolation) ∧
      Sound
        { core := ans.2, commits := committed daemon.commits ans.1
          issued := ids.requestId :: daemon.issued
          clock := now } := by
  cases plans with
  | refuses own =>
    have waited := issued_sound (clock_sound sound later) (newIds_frame new rfl rfl) rfl
      fun _ _ hit => .inl hit
    refine ⟨?_,waited⟩
    rcases own with rfl | rfl <;> exact nofun
  | unretried mem phase discuss failed =>
    have attempts := Attempts.replaces mem (Moves.retry phase discuss) nofun failed
      fun same => congrArg Except.error (Option.some.inj same)
    obtain ⟨own,kept⟩ := attempts_sound sound later attempts
    have sessions := (replace_frame failed).2.1
    have waited := issued_sound kept (newIds_frame new rfl sessions) rfl fun _ _ hit => .inl hit
    exact ⟨own,waited⟩
  | @retries exec middle _ mem phase discuss done plans =>
    have attempts : Attempts daemon now none middle :=
      Attempts.replaces mem (Moves.retry phase discuss) nofun done nofun
    obtain ⟨-,kept⟩ := attempts_sound sound later attempts
    have orderly := sound.orderly exec mem
    have valid := retry_valid orderly.valid discuss (orderly.updated.trans later)
    have sessions := (replace_frame done).2.1
    exact stepPlans_sound kept (newIds_frame new rfl sessions) valid plans
  | @steps exec _ mem plans =>
    have valid := (sound.orderly exec mem).valid
    exact stepPlans_sound (clock_sound sound later) (newIds_frame new rfl rfl) valid plans

end Keys

section Runs
variable {daemon after : Daemon} {call : Call}

theorem start_sound {id pid : String} (sound : Sound daemon) (later : daemon.clock ≤ now)
    (valid : (startExecution id pid tid config goal coordId now).isValid) :
    Sound (perform daemon (.start id pid tid config goal coordId now)).2 := by
  have follows : Follows daemon (perform daemon (.start id pid tid config goal coordId now)).2 :=
    ⟨fun _ given => given,fun reqId req hit _ => ⟨req,hit,rfl⟩⟩
  refine sound_follows sound follows later rfl (fun exec mem => ?_) sound.requests
  rcases mem_append.mp mem with old | new
  · exact .inl old
  · cases mem_singleton.mp new
    exact .inr ⟨⟨isValid_iff.mp valid,fun _ => rfl,le_rfl⟩,nofun⟩

theorem elsewhere_sound (sound : Sound daemon) (elsewhere : Elsewhere daemon.core core) :
    Sound { daemon with core := core } := by
  have follows : Follows daemon { daemon with core := core } := by
    refine ⟨fun _ given => given,fun reqId req hit _ => ?_⟩
    obtain ⟨earlier,pre,key,-⟩ := elsewhere.requests reqId req hit
    exact ⟨earlier,pre,key⟩
  refine sound_follows sound follows le_rfl rfl
    (fun _ mem => .inl (elsewhere.executions ▸ mem)) fun reqId req hit => ?_
  obtain ⟨earlier,pre,-,helper⟩ := elsewhere.requests reqId req hit
  exact helper ▸ sound.requests reqId earlier pre

theorem perform_sound (sound : Sound daemon) (possible : Possible daemon call) :
    (perform daemon call).1 ≠ some (.store .constraintViolation) ∧
      Sound (perform daemon call).2 := by
  cases call with
  | start id pid tid config goal coordId now =>
    exact ⟨nofun,start_sound sound possible.1 possible.2⟩
  | plan host ids profileResolves token msg now saves =>
    have plans := planWorkflowDelegate_plans (rfl : planWorkflowDelegate host ids profileResolves
      token msg now saves daemon.core = _)
    exact plan_sound sound possible.1 possible.2 plans
  | commit token commit now saves =>
    exact settle_sound sound possible.1 (commit_attempts possible.2)
  | deliver reqId now saves =>
    exact settle_sound sound possible (deliver_attempts reqId)
  | report token outcome text now prompt submits saves =>
    exact settle_sound sound possible (report_attempts token outcome text prompt submits)
  | prompt coordId isWorkflowPrompt now saves =>
    exact settle_sound sound possible (prompt_attempts coordId isWorkflowPrompt)
  | ask host ids token params allowParallel =>
    have asked := asks_sound sound possible
      (rfl : planAskTo host ids token params allowParallel daemon.core = _)
    exact ⟨asked.2,asked.1⟩
  | elsewhere core => exact ⟨nofun,elsewhere_sound sound possible⟩

structure Started (daemon : Daemon) : Prop where
  executions : daemon.core.workflowExecutions = []
  commits : daemon.commits = []
  requests : ∀ requestId request, daemon.core.request? requestId = some request →
    requestId ∈ daemon.issued ∧ WorkflowExecution.validRequestId requestId = true ∧
      isBlank request.helperSessionId = false

theorem started_sound (started : Started daemon) : Sound daemon := by
  refine ⟨?_,?_,?_,started.requests⟩
  · rw [started.executions]
    exact fun _ mem => absurd mem not_mem_nil
  · rw [started.executions]
    exact fun _ mem => absurd mem not_mem_nil
  · rw [started.commits]
    exact fun _ made => absurd made not_mem_nil

/-- In every run executions stay valid, and the store refuses no transition for its
    constraints. -/
theorem workflow_transitions_are_storable {calls : List Call} (started : Started daemon)
    (run : Run Step daemon calls after) :
    (∀ execution ∈ after.core.workflowExecutions, execution.isValid = true) ∧
      ∀ call, Possible after call →
        (perform after call).1 ≠ some (.store .constraintViolation) := by
  have keep {daemon call after} (sound : Sound daemon) (step : Step daemon call after) :
      Sound after := by
    obtain ⟨possible,rfl⟩ := step
    exact (perform_sound sound possible).2
  have sound := run_invariant Sound keep run (started_sound started)
  constructor
  · exact fun execution listed => isValid_iff.mpr (sound.orderly execution listed).valid
  · exact fun call possible => (perform_sound sound possible).1

end Runs

def emptyDaemon : Daemon :=
  { core := coordinatorCore, commits := [], issued := [], clock := 0 }

/-- The design is discussed with a helper, reported, and built. -/
def designAndBuild : List Call :=
  [.start "execution" "project" none designFirst "A goal" "coordinator" 1,
    .plan readyHost designIds true "secret" "Discuss this" 2 true,
    .commit "secret" (TermloopWaits.designDelegation none).commit 3 true,
    .deliver "request" 4 true,
    .report "secret" "completed" "Agreed" 5 none true true,
    .prompt "coordinator" true 6 true,
    .report "secret" "completed" "Built" 7 none true true]

theorem emptyDaemon_started : Started emptyDaemon :=
  ⟨rfl,rfl,fun _ _ hit => nomatch hit⟩

theorem designAndBuild_runs : ∃ after, Run Step emptyDaemon designAndBuild after ∧
    after.core.workflowExecutions.map (fun execution => (execution.phase, execution.updatedAt)) =
      [(.completed, 7)] := by
  have new : ∀ daemon : Daemon, daemon.issued = [] →
      daemon.core.store.sessions = coordinatorCore.store.sessions → NewIds daemon designIds := by
    intro daemon issued sessions
    refine ⟨issued ▸ not_mem_nil,by decide,by decide,?_⟩
    rw [sessions]
    decide
  exact ⟨_,Run.cons ⟨⟨by decide,by decide⟩,rfl⟩
    (Run.cons ⟨⟨by decide,new _ rfl rfl⟩,rfl⟩ (Run.cons ⟨⟨by decide,mem_cons_self⟩,rfl⟩
      (Run.cons ⟨Nat.le_succ 3,rfl⟩ (Run.cons ⟨Nat.le_succ 4,rfl⟩ (Run.cons ⟨Nat.le_succ 5,rfl⟩
        (run_single ⟨Nat.le_succ 6,rfl⟩)))))),rfl⟩

theorem designed_workflow_is_stored : ∃ after, Run Step emptyDaemon designAndBuild after ∧
      after.core.workflowExecutions.map (fun execution => (execution.phase, execution.updatedAt)) =
        [(.completed, 7)] ∧
      (∀ execution ∈ after.core.workflowExecutions, execution.isValid = true) ∧
      ∀ call, Possible after call →
        (perform after call).1 ≠ some (.store .constraintViolation) :=
  exists_reached designAndBuild_runs
    fun _ run _ => workflow_transitions_are_storable emptyDaemon_started run

end TermloopProgress
