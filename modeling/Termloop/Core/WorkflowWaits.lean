import Termloop.Core.AskToRouting
import Termloop.Core.RequestTables
import Termloop.Core.WorkflowValidity

/-!
What a workflow waits for, over whole runs. A delegated step is planned, its helper
launched and the execution committed in three separate steps; replies, deliveries,
failed launches and retirements fall between them. An execution that waits should
wait for a request that can still be answered, or be open to another try.
-/
namespace TermloopWaits
open List
open TermloopRecordLists TermloopOutcome TermloopRuns TermloopStore TermloopAskTo TermloopWorkflow
open TermloopTables TermloopValidity
open TermloopRouting (coordinator coordinatorCore readyHost)

/-- A delegate call of the server between its plan and its commit. -/
structure Delegation where
  token : String
  commit : WorkflowDelegateCommit
  plan : Option HelperLaunch
  deriving DecidableEq

structure Coordination where
  core : CoreRuntime
  delegations : List Delegation

inductive DelegateAction where
  | plan (host : Host) (ids : FreshIds) (profileResolves : Bool) (token message : String)
      (now : Nat) (persisted : Bool)
  | launch (delegation : Delegation) (plan : HelperLaunch) (starts persisted : Bool)
  | complete (delegation : Delegation) (now : Nat) (persisted : Bool)
  | reply (submits : Bool) (token requestId message : String)
  | acknowledge (writes : Writes) (attributed submits : Bool) (now : Nat) (target : String)
      (runtimeEpoch : Nat)
  | retire (sessionId : String)

def toLaunch : AskToPlanOutcome → Option HelperLaunch
  | .launch plan => some plan
  | .existing _ | .followUp _ => none

def perform (system : Coordination) : DelegateAction → Coordination
  | .plan host ids profileResolves token message now persisted =>
    let answer := planWorkflowDelegate host ids profileResolves token message now persisted
      system.core
    { core := answer.2
      delegations := match answer.1 with
        | .ok (outcome, commit) =>
          system.delegations ++ [{ token := token, commit := commit, plan := toLaunch outcome }]
        | .error _ => system.delegations }
  | .launch delegation plan starts persisted =>
    let answer := runLaunch plan starts persisted system.core
    { core := answer.2
      delegations := match answer.1 with
        | .ok () => { delegation with plan := none } :: system.delegations.erase delegation
        | .error _ => system.delegations.erase delegation }
  | .complete delegation now persisted =>
    { core := (completeWorkflowDelegate delegation.token delegation.commit now persisted
        system.core).2
      delegations := system.delegations.erase delegation }
  | .reply submits token requestId message =>
    { system with core := (replyToRequest submits token requestId message system.core).2 }
  | .acknowledge writes attributed submits now target runtimeEpoch =>
    { system with
      core := (completeAskToGeneratedInput writes attributed submits now target runtimeEpoch
        system.core).2 }
  | .retire sessionId => { system with core := retireAskToSession sessionId system.core }

def Active (execution : WorkflowExecution) : Prop :=
  execution.phase = .awaitingCoordinator ∨ execution.phase = .awaitingHelper

def awaited (execution : WorkflowExecution) : List String :=
  execution.currentRequestId.toList ++
    (execution.reviewRequests.filter fun request => !request.replyDelivered).map (·.requestId)

def recorded (execution : WorkflowExecution) : List String :=
  execution.currentRequestId.toList ++ execution.reviewRequests.map (·.requestId)

/-- A delegate call by the coordinator is not refused for the state of the workflow. -/
def OpenToRetry (core : CoreRuntime) (execution : WorkflowExecution) : Prop :=
  ∀ host ids profileResolves token message now persisted principal,
    core.authenticate token = some principal →
    principal.sessionId = execution.coordinatorSessionId →
      (planWorkflowDelegate host ids profileResolves token message now persisted core).1 ≠
        .error .workflowExecutionState

structure NewRequestId (core : CoreRuntime) (ids : FreshIds) : Prop where
  unseen : Unseen core ids.requestId
  unrecorded : ∀ execution ∈ core.workflowExecutions, ids.requestId ∉ recorded execution

def Possible (system : Coordination) : DelegateAction → Prop
  | .plan _ ids _ _ _ _ _ => NewRequestId system.core ids
  | .launch delegation plan _ _ =>
    delegation ∈ system.delegations ∧ delegation.plan = some plan
  | .complete delegation _ _ => delegation ∈ system.delegations ∧ delegation.plan = none
  | .reply _ _ _ _ | .acknowledge _ _ _ _ _ _ | .retire _ => True

def Step (system : Coordination) (action : DelegateAction) (after : Coordination) : Prop :=
  Possible system action ∧ perform system action = after

/-- A commit finds its request answerable, a delivered reply its execution, and no launch
    fails and no helper retires while an execution waits for its pending request. -/
def Requires (system : Coordination) : DelegateAction → Prop
  | .launch _ plan starts persisted =>
    (runLaunch plan starts persisted system.core).1 ≠ .ok () →
      ∀ execution ∈ system.core.workflowExecutions, Active execution →
        plan.requestId ∉ awaited execution
  | .complete delegation _ _ => Answerable system.core delegation.commit.requestId
  | .acknowledge writes _ _ now target _ => ∀ requestId execution,
      system.core.completions.lookup target = some (.reply requestId) →
      system.core.workflowExecutions.find? (awaitsReply requestId) = some execution →
        writes.workflow = true ∧ (afterReply requestId now execution).isValid = true
  | .retire sessionId =>
    ∀ execution ∈ system.core.workflowExecutions, Active execution →
      ∀ requestId ∈ awaited execution, ∀ request, system.core.request? requestId = some request →
        request.sourceSessionId ≠ sessionId ∧
          (request.helperSessionId = sessionId → request.status ≠ .pending)
  | .plan _ _ _ _ _ _ _ | .reply _ _ _ _ => True

def Safe (system : Coordination) (action : DelegateAction) : Prop :=
  (perform system action).core ≠ system.core → Requires system action

def Forgotten (core : CoreRuntime) (execution : WorkflowExecution) : Prop :=
  execution.phase = .awaitingHelper ∧ execution.currentStepIs .discuss = true ∧
    ∀ requestId, execution.currentRequestId = some requestId → core.request? requestId = none

/-- One execution is valid, has requests of its own coordinator only, and waits for
    nothing dead. -/
structure Fine (core : CoreRuntime) (execution : WorkflowExecution) : Prop where
  valid : execution.isValid = true
  own : ∀ requestId ∈ recorded execution, ∀ request, core.request? requestId = some request →
    request.sourceSessionId = execution.coordinatorSessionId
  waits : Active execution →
    (∀ requestId ∈ awaited execution, Answerable core requestId) ∨ Forgotten core execution

structure Waiting (core : CoreRuntime) : Prop where
  tabled : Tabled core
  fine : ∀ execution ∈ core.workflowExecutions, Fine core execution
  ids : core.workflowExecutions.Pairwise fun a b => b.id ≠ a.id
  coordinators : core.workflowExecutions.Pairwise fun a b =>
    b.coordinatorSessionId ≠ a.coordinatorSessionId

variable {exec : WorkflowExecution} {reqId token msg other target : String}
  {host : Host} {saves profileResolves submits : Bool} {ids : FreshIds} {now epoch : Nat}
  {req : AskToRequest} {writes : Writes}

theorem awaited_subset_recorded (waits : reqId ∈ awaited exec) : reqId ∈ recorded exec := by
  rcases mem_append.mp waits with cur | review
  · exact mem_append_left _ cur
  · obtain ⟨req,mem,same⟩ := mem_map.mp review
    exact mem_append_right _ (mem_map.mpr ⟨req,(mem_filter.mp mem).1,same⟩)

section Ageing
variable {core after : CoreRuntime}

theorem fine_of_kept (fine : Fine core exec)
    (kept : ∀ reqId ∈ recorded exec, ∀ next, after.request? reqId = some next → ∃
      req, core.request? reqId = some req ∧ next.sourceSessionId =
      req.sourceSessionId)
    (answerable : Active exec → ∀ reqId ∈ awaited exec, Answerable core reqId →
      Answerable after reqId) : Fine after exec := by
  refine ⟨fine.valid,?_,?_⟩
  · intro reqId mem next hit
    obtain ⟨req,pre,same⟩ := kept reqId mem next hit
    exact same.trans (fine.own reqId mem req pre)
  · intro active
    rcases fine.waits active with alive | ⟨phase,discuss,forgotten⟩
    · exact .inl fun reqId waits =>
        answerable active reqId waits (alive reqId waits)
    refine .inr ⟨phase,discuss,fun reqId cur => ?_⟩
    have mem : reqId ∈ recorded exec := by simp [recorded, cur]
    cases hit : after.request? reqId with
    | none => rfl
    | some next =>
      obtain ⟨req,pre,-⟩ := kept reqId mem next hit
      rw [forgotten reqId cur] at pre
      cases pre

theorem fine_of_requests (fine : Fine core exec) (same : after.requests = core.requests) :
    Fine after exec := by
  apply fine_of_kept fine
  · intro reqId _ next hit
    exact ⟨next,request?_of_requests same reqId ▸ hit,rfl⟩
  · exact fun _ _ _ => answerable_of_requests same

theorem waiting_of_aged (inv : Waiting core) (aged : Aged core after)
    (executions : after.workflowExecutions = core.workflowExecutions)
    (answerable : ∀ exec ∈ core.workflowExecutions, Active exec →
      ∀ reqId ∈ awaited exec, Answerable core reqId → Answerable after reqId) :
    Waiting after := by
  refine ⟨tabled_of_aged inv.tabled aged,?_,executions ▸ inv.ids,executions ▸ inv.coordinators⟩
  intro exec mem
  rw [executions] at mem
  apply fine_of_kept (inv.fine exec mem)
  · intro reqId _ next hit
    obtain ⟨req,pre,same,-⟩ := aged.requests reqId next hit
    exact ⟨req,pre,same⟩
  · exact answerable exec mem

theorem waiting_of_sameTables (inv : Waiting core) (same : SameTables core after) :
    Waiting after := by
  apply waiting_of_aged inv (aged_of_sameTables inv.tabled same) same.executions
  intro exec _ _ reqId _ answerable
  exact answerable_of_requests same.requests answerable

end Ageing

section Planning
variable {core base after : CoreRuntime}

theorem waiting_planBase (inv : Waiting core) (new : NewRequestId core ids)
    (based : PlanBase core base) : Waiting base ∧ NewRequestId base ids := by
  rcases based with same | ⟨sid,forgets,settled⟩
  · subst same
    exact ⟨inv,new⟩
  subst forgets
  refine ⟨?_,unseen_forgetRequests new.unseen,new.unrecorded⟩
  apply waiting_of_aged inv (aged_forgetRequests inv.tabled) rfl
  rintro exec _ _ reqId _ ⟨req,hit,flying⟩
  have unlisted : ¬ (core.requestsOf sid).contains reqId := by
    intro mem
    exact settled reqId (contains_iff_mem.mp mem) ⟨req,hit,flying⟩
  refine ⟨req,?_,flying⟩
  rw [request?_forgetRequests, if_neg unlisted, hit]

theorem waiting_plans (inv : Waiting core) (new : NewRequestId core ids)
    (plans : Plans ids core after) : Waiting after := by
  rcases plans with same | ⟨req,named,known⟩
  · exact waiting_of_sameTables inv same
  have unseen : Unseen core req.requestId := named ▸ new.unseen
  refine ⟨tabled_registered inv.tabled unseen known,?_,
    known.executions ▸ inv.ids,known.executions ▸ inv.coordinators⟩
  intro exec mem
  rw [known.executions] at mem
  have kept : ∀ reqId ∈ recorded exec, after.request? reqId = core.request? reqId := by
    intro reqId own
    have other : ¬ reqId = req.requestId := by
      intro same
      exact new.unrecorded exec mem (named ▸ same ▸ own)
    rw [request?_registered known, if_neg other]
  apply fine_of_kept (inv.fine exec mem)
  · intro reqId own next hit
    exact ⟨next,kept reqId own ▸ hit,rfl⟩
  · intro _ reqId waits answerable
    rwa [Answerable, kept reqId (awaited_subset_recorded waits)]

theorem waiting_planAskTo (inv : Waiting core) (new : NewRequestId core ids) :
    Waiting (planAskTo host ids token params allowParallel core).2 := by
  obtain ⟨⟨base,based,plans⟩,-⟩ :=
    planAskTo_tables (rfl : planAskTo host ids token params allowParallel core = _)
  obtain ⟨invBase,newBase⟩ := waiting_planBase inv new based
  exact waiting_plans invBase newBase plans

end Planning

section Replacement
variable {core after : CoreRuntime} {want new : WorkflowExecution}

structure Replaced (core : CoreRuntime) (expected replacement : WorkflowExecution)
    (after : CoreRuntime) : Prop where
  listed : expected ∈ core.workflowExecutions
  requests : after.requests = core.requests
  bySource : after.bySource = core.bySource
  completions : after.completions = core.completions
  members : ∀ execution ∈ after.workflowExecutions,
    execution = replacement ∨ execution ∈ core.workflowExecutions ∧ execution.id ≠ expected.id
  ids : after.workflowExecutions.Pairwise fun a b => b.id ≠ a.id
  coordinators : after.workflowExecutions.Pairwise fun a b =>
    b.coordinatorSessionId ≠ a.coordinatorSessionId
  valid : replacement.isValid = true
  coordinator : replacement.coordinatorSessionId = expected.coordinatorSessionId

theorem replaced_of_ok
    (done : replaceWorkflowExecution want replacement saves core = (.ok (), after))
    (ids : core.workflowExecutions.Pairwise fun a b => b.id ≠ a.id)
    (coordinators : core.workflowExecutions.Pairwise fun a b => b.coordinatorSessionId ≠
      a.coordinatorSessionId) :
    Replaced core want replacement after := by
  unfold replaceWorkflowExecution at done
  split at done
  · cases done
  next accepted =>
  simp only [Bool.or_eq_true, Bool.not_eq_true', not_or, Bool.not_eq_false] at accepted
  obtain ⟨valid,same⟩ := accepted
  simp only [WorkflowExecution.sameWorkflow, Bool.and_eq_true, beq_iff_eq, and_assoc] at same
  obtain ⟨sameId,-,-,-,-,coordinator,-⟩ := same
  split at done
  · cases done
  next cur hit =>
  split at done
  · cases done
  next matching =>
  have current_eq : cur = want := by simpa using matching
  subst current_eq
  have mem := mem_of_find?_eq_some hit
  split at done
  · next unchanged =>
    cases done
    have replacement_eq : replacement = cur := by simpa using unchanged
    refine ⟨mem,rfl,rfl,rfl,?_,ids,coordinators,valid,coordinator⟩
    intro exec here
    by_cases mine : exec.id = cur.id
    · exact .inl ((eq_of_key ids here mem mine).trans replacement_eq.symm)
    · exact .inr ⟨here,mine⟩
  · split at done
    · cases done
    cases done
    refine ⟨mem,rfl,rfl,rfl,?_,?_,?_,valid,coordinator⟩
    · intro exec here
      rcases mem_updateFirst_key ids here with old | ⟨_,-,new⟩
      · exact .inr old
      · exact .inl new
    · apply pairwise_updateFirst ids
      all_goals
        intro x y at_id _ apart
        rw [hit] at at_id
        cases at_id
        rwa [sameId]
    · apply pairwise_updateFirst coordinators
      all_goals
        intro x y at_id _ apart
        rw [hit] at at_id
        cases at_id
        rwa [coordinator]

theorem replace_succeeds (valid : new.isValid) (same : new.sameWorkflow want)
    (hit : (core.workflowExecutions.find? (·.id == want.id)) = some want) :
    ∃ after, replaceWorkflowExecution want new true core = (.ok (), after) := by
  unfold replaceWorkflowExecution
  simp only [valid, same, hit, Bool.not_true, Bool.or_self, Bool.false_eq_true, if_false,
    bne_self_eq_false]
  split
  · exact ⟨_,rfl⟩
  · exact ⟨_,rfl⟩

theorem replace_refused
    (refused : replaceWorkflowExecution want new saves core = (.error error, after)) :
    after = core ∧ error ≠ .workflowExecutionState := by
  unfold replaceWorkflowExecution at refused
  split at refused
  · cases refused
    exact ⟨rfl,nofun⟩
  split at refused
  · cases refused
    exact ⟨rfl,nofun⟩
  · split at refused
    · cases refused
      exact ⟨rfl,nofun⟩
    · split at refused
      · cases refused
      split at refused <;> cases refused
      exact ⟨rfl,nofun⟩

theorem waiting_replaced (tabled : Tabled core) (replaced : Replaced core want replacement after)
    (others : ∀ exec ∈ core.workflowExecutions, exec.id ≠ want.id →
      Fine core exec) (fine : Fine core replacement) : Waiting after := by
  have aged : Aged core after := aged_of_requests tabled replaced.requests replaced.bySource
    fun _ _ waiting => .inl (replaced.completions ▸ waiting)
  refine ⟨tabled_of_aged tabled aged,?_,replaced.ids,replaced.coordinators⟩
  intro exec mem
  rcases replaced.members exec mem with new | ⟨old,other⟩
  · exact new ▸ fine_of_requests fine replaced.requests
  · exact fine_of_requests (others exec old other) replaced.requests

end Replacement

section Steps
variable {core : CoreRuntime}

theorem delegateStep_core : (delegateStep host ids profileResolves token msg exec rt).2 = rt ∨
      ∃ params allowParallel, (delegateStep host ids profileResolves token msg exec rt).2 =
          (planAskTo host ids token params allowParallel rt).2 := by
  have plans := delegateStep_plans
    (rfl : delegateStep host ids profileResolves token msg exec rt = _)
  generalize delegateStep host ids profileResolves token msg exec rt = ans at plans
  cases plans with
  | refuses own => exact .inl rfl
  | fails planned => exact .inr ⟨_,_,(congrArg Prod.snd planned).symm⟩
  | loses planned => exact .inr ⟨_,_,(congrArg Prod.snd planned).symm⟩
  | commits planned key => exact .inr ⟨_,_,(congrArg Prod.snd planned).symm⟩

theorem waiting_delegateStep (inv : Waiting core) (new : NewRequestId core ids) :
    Waiting (delegateStep host ids profileResolves token msg exec core).2 := by
  rcases delegateStep_core with
    same | ⟨params,allowParallel,plans⟩
  · rwa [same]
  · rw [plans]
    exact waiting_planAskTo inv new

theorem retried_recorded (valid : Valid exec) (discuss : exec.currentStepIs .discuss) :
    recorded (exec.retried now) = [] := by
  have none_listed := requests_nil valid.placed (currentStepIs_unique (by decide) discuss)
  simp [recorded, WorkflowExecution.retried, none_listed]

theorem plan_waiting (inv : Waiting core) (new : NewRequestId core ids) :
    Waiting (planWorkflowDelegate host ids profileResolves token msg now saves core).2 := by
  unfold planWorkflowDelegate
  iterate 2 (split; · exact inv)
  next exec hit =>
  split
  · next retry =>
    have discuss := (Bool.and_eq_true_iff.mp retry).2
    split
    · exact inv
    split
    · next refused =>
      rw [(replace_refused refused).1]
      exact inv
    next after done =>
    have replaced := replaced_of_ok done inv.ids inv.coordinators
    have valid := isValid_iff.mp (inv.fine exec replaced.listed).valid
    have nothing := @retried_recorded exec now valid discuss
    have idle : Fine core (exec.retried now) := by
      refine ⟨replaced.valid,?_,fun _ => .inl ?_⟩
      · rw [nothing]
        exact fun _ mem => nomatch mem
      · intro reqId waits
        have mem := awaited_subset_recorded waits
        rw [nothing] at mem
        cases mem
    have invAfter := waiting_replaced inv.tabled replaced
      (fun other mem _ => inv.fine other mem) idle
    refine waiting_delegateStep invAfter ⟨?_,?_⟩
    · exact unseen_of_tables replaced.requests replaced.bySource replaced.completions new.unseen
    · intro other mem
      rcases replaced.members other mem with rfl | ⟨old,-⟩
      · rw [nothing]
        exact not_mem_nil
      · exact new.unrecorded other old
  · exact waiting_delegateStep inv new

theorem answerable_updateRequest (keeps : ∀ req, (change req).requestId = req.requestId)
    (apart : ¬ other = reqId) (answerable : Answerable core other) :
    Answerable (core.updateRequest reqId change) other := by
  obtain ⟨req,hit,flying⟩ := answerable
  refine ⟨req,?_,flying⟩
  rw [request?_updateRequest keeps, if_neg apart, hit]

theorem answerable_changed (keeps : ∀ req, (change req).requestId = req.requestId)
    (hit : core.request? reqId = some req) (flying : (change req).inFlight) :
    Answerable (core.updateRequest reqId change) reqId := by
  refine ⟨change req,?_,flying⟩
  rw [request?_updateRequest keeps, if_pos rfl, hit, Option.map_some]

theorem launch_waiting (inv : Waiting core)
    (unawaited : (runLaunch plan starts saves core).1 ≠ .ok () → ∀ exec ∈
      core.workflowExecutions, Active exec → plan.requestId ∉ awaited exec) :
    Waiting (runLaunch plan starts saves core).2 := by
  have same := @launch_sameTables plan.requestId core saves plan starts
  unfold runLaunch at unawaited ⊢
  generalize completeAskToLaunch plan.requestId plan starts saves core = ans at same unawaited
  obtain ⟨result,middle⟩ := ans
  have invMiddle := waiting_of_sameTables inv same
  cases result with
  | ok done => exact invMiddle
  | error error =>
    show Waiting (failAskToLaunch plan.requestId middle)
    rcases @failAskToLaunch_effect plan.requestId middle with unchanged | fails
    · rw [unchanged]
      exact invMiddle
    · refine waiting_of_sameTables ?_ fails
      apply waiting_of_aged invMiddle
      · exact aged_updateRequest invMiddle.tabled (fun _ => rfl) (fun _ => rfl) fun _ _ => nofun
      · rfl
      · intro exec mem active reqId waits
        have unheld := unawaited nofun exec (same.executions ▸ mem) active
        exact answerable_updateRequest (fun _ => rfl) fun mine => unheld (mine ▸ waits)

theorem waiting_tryDeliver (inv : Waiting core) (submits : Bool) (reqId : String) :
    Waiting (tryDeliverAskToReply submits reqId core) := by
  obtain ⟨requests,executions⟩ := @tryDeliver_frame reqId core submits
  exact waiting_of_aged inv (aged_tryDeliver inv.tabled) executions
    fun _ _ _ _ _ => answerable_of_requests requests

theorem reply_waiting (inv : Waiting core) :
    Waiting (replyToRequest submits token reqId msg core).2 := by
  unfold replyToRequest
  iterate 4 (split; · exact inv)
  next req hit =>
  obtain ⟨at_id,-⟩ := Option.filter_eq_some_iff.mp hit
  split
  · next pending =>
    apply waiting_tryDeliver
    apply waiting_of_aged inv
    · exact aged_updateRequest inv.tabled (fun _ => rfl) (fun _ => rfl) fun _ _ => nofun
    · rfl
    · intro exec _ _ other _ answerable
      by_cases mine : other = reqId
      · subst mine
        have waiting := inv.tabled.undelivered other req at_id pending
        refine answerable_changed (fun _ => rfl) at_id ?_
        simp [AskToRequest.inFlight, AskToStatus.isCompleted, waiting]
      · exact answerable_updateRequest (fun _ => rfl) mine answerable
  · split
    · exact waiting_tryDeliver inv submits reqId
    · exact inv
  · exact inv
  · exact inv

theorem retire_waiting (inv : Waiting core)
    (unawaited : ∀ exec ∈ core.workflowExecutions, Active exec →
      ∀ reqId ∈ awaited exec, ∀ req, core.request? reqId = some req →
        req.sourceSessionId ≠ sid ∧ (req.helperSessionId = sid → req.status ≠ .pending)) :
    Waiting (retireAskToSession sid core) := by
  apply waiting_of_aged inv (aged_retire inv.tabled) rfl
  rintro exec mem active reqId waits ⟨req,hit,flying⟩
  obtain ⟨source,helper⟩ := unawaited exec mem active reqId waits req hit
  exact answerable_retire inv.tabled hit flying source helper

section Delegated
variable {step : WorkflowStep} {helperId : String}

theorem delegated_coordinator :
    (exec.delegated step reqId helperId now).coordinatorSessionId = exec.coordinatorSessionId := by
  unfold WorkflowExecution.delegated
  dsimp only
  split <;> rfl

theorem delegated_awaited (waits : other ∈ awaited (exec.delegated step reqId helperId now)) :
    other ∈ awaited exec ∨ other = reqId := by
  unfold awaited WorkflowExecution.delegated at waits
  dsimp only at waits
  split at waits
  · simp only [Option.toList_none, nil_append, filter_append, map_append, mem_append] at waits
    rcases waits with old | new
    · exact .inl (mem_append_right _ old)
    · exact .inr (by simpa using new)
  · rcases mem_append.mp waits with new | old
    · exact .inr (by simpa using new)
    · exact .inl (mem_append_right _ old)

theorem delegated_recorded (mem : other ∈ recorded (exec.delegated step reqId helperId now)) :
    other ∈ recorded exec ∨ other = reqId := by
  unfold recorded WorkflowExecution.delegated at mem
  dsimp only at mem
  split at mem
  · simp only [Option.toList_none, nil_append, map_append, mem_append] at mem
    rcases mem with old | new
    · exact .inl (mem_append_right _ old)
    · exact .inr (by simpa using new)
  · rcases mem_append.mp mem with new | old
    · exact .inr (by simpa using new)
    · exact .inl (mem_append_right _ old)

theorem delegated_fine (fine : Fine core exec) (phase : exec.phase = .awaitingCoordinator)
    (own : ∀ req, core.request? reqId = some req →
      req.sourceSessionId = exec.coordinatorSessionId) (answerable : Answerable core reqId)
    (valid : (exec.delegated step reqId helperId now).isValid) :
    Fine core (exec.delegated step reqId helperId now) := by
  have alive : ∀ other ∈ awaited exec, Answerable core other := by
    rcases fine.waits (.inl phase) with alive | ⟨helper,-⟩
    · exact alive
    · rw [phase] at helper
      cases helper
  refine ⟨valid,?_,fun _ => .inl ?_⟩
  · intro other mem req hit
    rw [delegated_coordinator]
    rcases delegated_recorded mem with old | rfl
    · exact fine.own other old req hit
    · exact own req hit
  · intro other waits
    rcases delegated_awaited waits with old | rfl
    · exact alive other old
    · exact answerable

end Delegated

theorem complete_waiting (inv : Waiting core) (answerable : Answerable core commit.requestId) :
    Waiting (completeWorkflowDelegate token commit now saves core).2 := by
  unfold completeWorkflowDelegate
  iterate 3 (split; · exact inv)
  next want mem =>
  split
  · exact inv
  next step _ =>
  split
  · exact inv
  next matching =>
  simp only [Bool.or_eq_true, bne_iff_ne, not_or, ne_eq, not_not] at matching
  obtain ⟨⟨coordinator,phase⟩,-⟩ := matching
  split
  · exact inv
  next req hit =>
  obtain ⟨at_id,accepted⟩ := Option.filter_eq_some_iff.mp hit
  simp only [Bool.and_eq_true, beq_iff_eq] at accepted
  split
  · exact inv
  cases done : replaceWorkflowExecution want (want.delegated step
      commit.requestId req.helperSessionId now) saves core with
  | mk result after =>
    cases result with
    | error error =>
      rw [(replace_refused done).1]
      exact inv
    | ok _ =>
      have replaced := replaced_of_ok done inv.ids inv.coordinators
      apply waiting_replaced inv.tabled replaced
      · exact fun other here _ => inv.fine other here
      · apply delegated_fine (inv.fine want replaced.listed) phase _ answerable replaced.valid
        intro other here
        rw [at_id] at here
        cases here
        exact accepted.1.trans coordinator.symm

section Delivered

theorem awaitsReply_of_awaited (valid : Valid exec) (active : Active exec)
    (waits : reqId ∈ awaited exec) : awaitsReply reqId exec := by
  rcases mem_append.mp waits with cur | review
  · have asked : exec.currentRequestId = some reqId := by simpa using cur
    rcases active with phase | phase
    · rw [request_none valid.placed (by rw [phase]; decide)] at asked
      cases asked
    · simp [awaitsReply, phase, asked]
  · obtain ⟨req,mem,same⟩ := mem_map.mp review
    have here : (exec.reviewRequests.any (·.requestId == reqId)) :=
      any_eq_true.mpr ⟨req,(mem_filter.mp mem).1,by simpa using same⟩
    rcases active with phase | phase <;> simp [awaitsReply, phase, here]

theorem recorded_of_awaitsReply (waits : awaitsReply reqId exec) : reqId ∈ recorded exec := by
  simp only [awaitsReply, Bool.or_eq_true, Bool.and_eq_true, beq_iff_eq] at waits
  rcases waits with ⟨-,cur⟩ | ⟨-,review⟩
  · simp [recorded, cur]
  · obtain ⟨req,mem,same⟩ := any_eq_true.mp review
    exact mem_append_right _ (mem_map.mpr ⟨req,mem,by simpa using same⟩)

theorem afterReply_recorded (mem : other ∈ recorded (afterReply reqId now exec)) :
    other ∈ recorded exec := by
  unfold recorded afterReply at mem
  split at mem
  · have same : ∀ req : WorkflowReviewRequest,
        { req with replyDelivered := true }.requestId = req.requestId := fun _ => rfl
    dsimp only at mem
    rwa [map_updateFirst same] at mem
  · exact mem_append_right _ (by simpa using mem)

theorem afterReply_awaited (valid : Valid exec) (active : Active (afterReply reqId now exec))
    (waits : other ∈ awaited (afterReply reqId now exec)) :
    other ∈ awaited exec ∧ ¬ other = reqId ∧ exec.currentStepIs .review := by
  unfold afterReply at active waits
  split at active
  · next review =>
    obtain ⟨req,mem,-⟩ := any_eq_true.mp review
    have step := review_of_request valid.placed mem
    have apart := valid.placed.2.2.1.2.2.imp And.right
    rw [if_pos review] at waits
    unfold awaited at waits
    simp only [review_request_none valid.placed step, Option.toList_none, nil_append] at waits
    obtain ⟨left,undelivered,same⟩ := mem_map.mp waits
    obtain ⟨ticked,open_⟩ := mem_filter.mp undelivered
    rcases mem_updateFirst_key apart ticked with ⟨old,apart⟩ | ⟨_,-,new⟩
    · refine ⟨?_,same ▸ apart,step⟩
      exact mem_append_right _ (mem_map.mpr ⟨left,mem_filter.mpr ⟨old,open_⟩,same⟩)
    · rw [new] at open_
      cases open_
  · rcases active with phase | phase <;> cases phase

theorem afterReply_coordinator : (afterReply reqId now exec).coordinatorSessionId =
    exec.coordinatorSessionId := by
  unfold afterReply
  split <;> rfl

def delivered (rt : CoreRuntime) (requestId : String) : CoreRuntime :=
  rt.updateRequest requestId fun request => { request with replyDelivered := true }

theorem delivered_executions :
    (delivered rt reqId).workflowExecutions = rt.workflowExecutions := rfl

theorem aged_delivered (tabled : Tabled core) (hit : core.request? reqId = some req)
    (replied : req.status ≠ .pending) :
    Aged core (delivered core reqId) := by
  unfold delivered
  refine aged_updateRequest tabled (fun _ => rfl) (fun _ => rfl) fun other here => ?_
  rw [hit] at here
  cases here
  exact replied

theorem fine_delivered (fine : Fine core exec) (aged : Aged core (delivered core reqId))
    (apart : Active exec → reqId ∉ awaited exec) :
    Fine (delivered core reqId) exec := by
  apply fine_of_kept fine
  · intro other _ next hit
    obtain ⟨req,pre,same,-⟩ := aged.requests other next hit
    exact ⟨req,pre,same⟩
  · intro active other waits
    exact answerable_updateRequest (fun _ => rfl) fun mine => apart active (mine ▸ waits)

theorem afterReply_fine (fine : Fine core exec) (aged : Aged core (delivered core reqId))
    (waits : awaitsReply reqId exec) (valid : (afterReply reqId now exec).isValid) :
    Fine (delivered core reqId) (afterReply reqId now exec) := by
  refine ⟨valid,?_,fun active => .inl ?_⟩
  · intro other mem next hit
    obtain ⟨req,pre,same,-⟩ := aged.requests other next hit
    rw [afterReply_coordinator, same]
    exact fine.own other (afterReply_recorded mem) req pre
  · intro other still
    obtain ⟨pre,apart,review⟩ := afterReply_awaited (isValid_iff.mp fine.valid) active still
    have alive : ∀ other ∈ awaited exec, Answerable core other := by
      rcases fine.waits (active_of_awaitsReply waits) with alive | ⟨-,discuss,-⟩
      · exact alive
      · rw [currentStepIs_unique (by decide) discuss] at review
        cases review
    exact answerable_updateRequest (fun _ => rfl) apart (alive other pre)

end Delivered

variable (inv : Waiting core)
include inv

theorem unawaited_elsewhere
    (hit : core.request? reqId = some req) (mine : want ∈ core.workflowExecutions)
    (own : reqId ∈ recorded want) (mem : exec ∈ core.workflowExecutions)
    (other : exec.id ≠ want.id) : reqId ∉ awaited exec := by
  intro waits
  have theirs := (inv.fine exec mem).own reqId (awaited_subset_recorded waits) req hit
  have ours := (inv.fine want mine).own reqId own req hit
  have same := eq_of_key inv.coordinators mem mine (theirs.symm.trans ours)
  exact other (same ▸ rfl)

theorem workflowReply_waiting {reqId : String} {now : Nat} {saves : Bool} {req : AskToRequest}
    (hit : core.request? reqId = some req) (replied : req.status ≠ .pending) (reaches : ∀ exec,
      core.workflowExecutions.find? (awaitsReply reqId) = some exec →
        saves ∧ (afterReply reqId now exec).isValid) :
    Waiting (completeWorkflowHelperReplyDelivery reqId now saves (delivered core reqId)).2 := by
  have aged := aged_delivered inv.tabled hit replied
  unfold completeWorkflowHelperReplyDelivery
  cases search : core.workflowExecutions.find? (awaitsReply reqId) with
  | none =>
    have unawaited : ∀ exec ∈ core.workflowExecutions, Active exec → reqId ∉ awaited exec := by
      intro exec mem active waits
      have valid := isValid_iff.mp (inv.fine exec mem).valid
      exact find?_eq_none.mp search exec mem (awaitsReply_of_awaited valid active waits)
    simp only [delivered_executions, search]
    refine ⟨tabled_of_aged inv.tabled aged,?_,inv.ids,inv.coordinators⟩
    intro exec mem
    exact fine_delivered (inv.fine exec mem) aged (unawaited exec mem)
  | some want =>
    obtain ⟨saved,valid⟩ := reaches want search
    have mem := mem_of_find?_eq_some search
    have waits := find?_some search
    have stored : ((delivered core reqId).workflowExecutions.find?
        (·.id == want.id)) = some want := by
      apply find?_eq_some_of_only mem (by simp)
      intro other here same
      exact eq_of_key inv.ids here mem (by simpa using same)
    have same : (afterReply reqId now want).sameWorkflow want := by
      unfold afterReply
      split <;> simp [WorkflowExecution.sameWorkflow]
    obtain ⟨after,done⟩ := replace_succeeds valid same stored
    simp only [delivered_executions, search, saved, done]
    have replaced := replaced_of_ok done inv.ids inv.coordinators
    apply waiting_replaced (tabled_of_aged inv.tabled aged) replaced
    · intro exec here other
      apply fine_delivered (inv.fine exec here) aged
      intro _
      exact unawaited_elsewhere inv hit mem (recorded_of_awaitsReply waits) here other
    · exact afterReply_fine (inv.fine want mem) aged waits valid

theorem waiting_eraseCompletion (target : String) :
    Waiting { core with completions := core.completions.erase target } :=
  waiting_of_aged inv (aged_of_requests inv.tabled rfl rfl fun _ _ waiting =>
      .inl (TermloopKeyed.lookup_erase_some waiting).2) rfl
    fun _ _ _ _ _ answerable => answerable

theorem followUp_waiting : Waiting (completeFollowUp writes target epoch req core).2 := by
  unfold completeFollowUp
  iterate 2 (split; · exact inv)
  next helper _ =>
  generalize ran : markHelper writes req.helperSessionId req.conversationId
    helper.runtimeEpoch (some req.requestId) none core = ans
  have invMarked := waiting_of_sameTables inv (markHelper_sameTables ran)
  obtain ⟨result,marked⟩ := ans
  cases result with
  | error error => exact invMarked
  | ok _ => exact waiting_eraseCompletion invMarked target

theorem deliverReply_waiting (hit : core.request? reqId = some req)
    (replied : req.status ≠ .pending)
    (reaches : ∀ exec, core.workflowExecutions.find? (awaitsReply reqId) = some exec
      → writes.workflow ∧ (afterReply reqId now exec).isValid) :
    Waiting (completeReply writes submits now target epoch req core).2 := by
  have named := request?_id hit
  unfold completeReply
  iterate 2 (split; · exact inv)
  next helper _ =>
  generalize ran : markHelper writes req.helperSessionId req.conversationId
    helper.runtimeEpoch none (some req.requestId) core = ans
  have same := markHelper_sameTables ran
  obtain ⟨result,marked⟩ := ans
  have invMarked := waiting_of_sameTables inv same
  cases result with
  | error error => exact invMarked
  | ok _ =>
    have reply := @workflowReply_waiting marked invMarked reqId now writes.workflow req
      ((request?_of_requests same.requests reqId).trans hit) replied
      (same.executions ▸ reaches)
    rw [named]
    dsimp only
    rw [← delivered]
    generalize completeWorkflowHelperReplyDelivery reqId now writes.workflow
      (delivered marked reqId) = ans at reply
    obtain ⟨result,after⟩ := ans
    cases result with
    | error error => exact reply
    | ok _ =>
      have erased := waiting_eraseCompletion reply target
      show Waiting (tryDeliverAskToReplyForSource submits req.sourceSessionId
        { after with completions := after.completions.erase target })
      unfold tryDeliverAskToReplyForSource
      dsimp only
      split
      · exact erased
      · exact waiting_tryDeliver erased submits _

theorem acknowledge_waiting
    (reaches : ∀ reqId exec, core.completions.lookup target = some (.reply reqId) →
      core.workflowExecutions.find? (awaitsReply reqId) = some exec → writes.workflow =
      true ∧ (afterReply reqId now exec).isValid) :
    Waiting (completeAskToGeneratedInput writes attributed submits now target epoch core).2 := by
  unfold completeAskToGeneratedInput
  split
  · exact inv
  next completion waiting =>
  iterate 2 (split; · exact inv)
  next req hit =>
  cases completion with
  | followUp reqId => exact followUp_waiting inv
  | reply reqId =>
    have replied := inv.tabled.replies target reqId req waiting hit
    exact deliverReply_waiting inv hit replied fun exec =>
      reaches reqId exec waiting

end Steps

section Retry
variable {core : CoreRuntime}

theorem discuss_step (valid : Valid exec) (discuss : exec.currentStepIs .discuss) :
    ∃ step, exec.currentStep = some step ∧ step.kind = .discuss ∧
      step.agentId.isSome ∧ step.launchSelection.isSome := by
  obtain ⟨step,cur,kind⟩ := currentStepIs_iff.mp discuss
  have fits := steps_valid valid.named.2.2.2.1 (currentStep_listed cur)
  simp only [WorkflowStep.isValid, kind, Bool.and_eq_true, and_assoc] at fits
  obtain ⟨-,-,-,agent,launch,-,fresh,-⟩ := fits
  have reuse : step.reuseStepId = none := by simpa using fresh
  rw [reuse] at launch
  exact ⟨step,cur,kind,Option.isSome_of_any agent,Option.isSome_of_any launch⟩

theorem delegateStep_retried (valid : Valid exec)
    (helper : exec.phase = .awaitingHelper) (discuss : exec.currentStepIs .discuss) :
    (delegateStep host ids profileResolves token msg (exec.retried now) rt).1 ≠
      .error .workflowExecutionState := by
  obtain ⟨step,cur,kind,agent,launch⟩ := discuss_step valid discuss
  have quiet : exec.coordinatorPromptPending = false := by
    cases pending : exec.coordinatorPromptPending with
    | false => rfl
    | true => exact absurd (valid.placed.1 pending) (by simp [helper])
  have delegates : (exec.retried now).delegatedStep = some step := by
    have same : (exec.retried now).currentStep = some step := cur
    simp only [WorkflowExecution.delegatedStep, same, kind]
  obtain ⟨target,named⟩ := Option.isSome_iff_exists.mp agent
  have chosen : step.launchSelection.isNone = false := by simpa using launch
  have ready : ((exec.retried now).phase != .awaitingCoordinator ||
      (exec.retried now).coordinatorPromptPending) = false := by
    simp [WorkflowExecution.retried, quiet]
  unfold delegateStep
  simp only [ready, delegates, named, chosen, Bool.and_false, Bool.false_eq_true, if_false]
  iterate 2 (split; · exact nofun)
  split
  · next error after planned =>
    have other := (planAskTo_tables planned).2 error rfl
    rintro ⟨⟩
    cases other
  · split <;> exact nofun

theorem openToRetry_of_forgotten (inv : Waiting core)
    (mem : exec ∈ core.workflowExecutions) (forgotten : Forgotten core exec) :
    OpenToRetry core exec := by
  obtain ⟨phase,discuss,unknown⟩ := forgotten
  have valid := isValid_iff.mp (inv.fine exec mem).valid
  intro host ids profileResolves token msg now saves principal known own
  have hit : (core.workflowExecutions.find?
      (·.coordinatorSessionId == principal.sessionId)) = some exec := by
    apply find?_eq_some_of_only mem (by simp [own])
    intro other here same
    apply eq_of_key inv.coordinators here mem
    exact (beq_iff_eq.mp same).trans own
  have absent : (exec.currentRequestId.any fun reqId =>
      (core.request? reqId).isSome) = false := by
    cases cur : exec.currentRequestId with
    | none => rfl
    | some reqId => simp [unknown reqId cur]
  unfold planWorkflowDelegate
  simp only [known, hit, phase, discuss, absent, beq_self_eq_true, Bool.and_self, if_true,
    Bool.false_eq_true, if_false]
  split
  · next refused => exact fun h => (replace_refused refused).2 (by simpa using h)
  · exact delegateStep_retried valid phase discuss

end Retry

theorem step_waiting (sys : Coordination) (action : DelegateAction) (after : Coordination)
    (inv : Waiting sys.core) (safe : Safe sys action) (step : Step sys action after) :
    Waiting after.core := by
  obtain ⟨possible,performs⟩ := step
  subst performs
  by_cases unchanged : (perform sys action).core = sys.core
  · rw [unchanged]
    exact inv
  have required := safe unchanged
  cases action with
  | plan host ids profileResolves token msg now saves =>
    exact plan_waiting inv possible
  | launch delegation plan starts saves => exact launch_waiting inv required
  | complete delegation now saves => exact complete_waiting inv required
  | reply submits token reqId msg => exact reply_waiting inv
  | acknowledge writes attributed submits now target epoch =>
    exact acknowledge_waiting inv required
  | retire sid => exact retire_waiting inv required

/-- A fresh daemon: no requests, and of the executions only a discussion may still wait. -/
structure Started (core : CoreRuntime) : Prop where
  requests : core.requests = []
  valid : ∀ execution ∈ core.workflowExecutions, execution.isValid = true
  ids : core.workflowExecutions.Pairwise fun a b => b.id ≠ a.id
  coordinators : core.workflowExecutions.Pairwise fun a b =>
    b.coordinatorSessionId ≠ a.coordinatorSessionId
  idle : ∀ execution ∈ core.workflowExecutions, Active execution → awaited execution = [] ∨
    execution.phase = .awaitingHelper ∧ execution.currentStepIs .discuss = true

theorem waiting_started (started : Started core) : Waiting core := by
  have unknown : ∀ reqId, core.request? reqId = none := by
    intro reqId
    rw [CoreRuntime.request?, started.requests, find?_nil]
  have absurd_found : ∀ {reqId : String} {req : AskToRequest}, core.request? reqId ≠ some req := by
    intro reqId req hit
    rw [unknown reqId] at hit
    cases hit
  refine ⟨⟨started.requests ▸ .nil,?_,?_,?_⟩,?_,started.ids,started.coordinators⟩
  · exact fun _ _ _ _ hit => absurd hit absurd_found
  · exact fun _ _ hit => absurd hit absurd_found
  · exact fun _ _ _ _ hit => absurd hit absurd_found
  · intro exec mem
    refine ⟨started.valid exec mem,fun _ _ _ hit => absurd hit absurd_found,?_⟩
    intro active
    rcases started.idle exec mem active with nothing | ⟨phase,discuss⟩
    · rw [nothing]
      exact .inl fun _ waits => absurd waits not_mem_nil
    · exact .inr ⟨phase,discuss,fun reqId _ => unknown reqId⟩

/-- In runs that meet the requirement, an execution that waits for helpers waits for
    answerable requests or is open to a retry. -/
theorem workflow_waits_stay_answerable {core : CoreRuntime} {actions : List DelegateAction}
    {after : Coordination} (started : Started core)
    (run : Run (Guarded Safe Step) { core := core, delegations := [] } actions after) :
    ∀ execution ∈ after.core.workflowExecutions, execution.phase = .awaitingHelper →
      (∀ requestId ∈ awaited execution, Answerable after.core requestId) ∨
        OpenToRetry after.core execution := by
  have inv : Waiting after.core := guarded_run_invariant (fun system => Waiting system.core)
    (step_waiting _ _ _) run (waiting_started started)
  intro execution listed phase
  rcases (inv.fine execution listed).waits (.inr phase) with alive | forgotten
  · exact .inl alive
  · exact .inr (openToRetry_of_forgotten inv listed forgotten)

def designFirst : WorkflowConfiguration :=
  let selection : AgentLaunchSelection :=
    { model := "model", permission := "default", reasoning := "high", accountId := none }
  { id := "workflow", projectId := "project", name := "Design first"
    coordinatorAgentId := "claude", launchSelection := selection, maxReviewCycles := 1
    steps :=
      [{ id := "design", kind := .discuss, title := "Design", instructions := "Discuss the design"
         agentId := some "codex", launchSelection := some selection },
       { id := "build", kind := .implement, title := "Build", instructions := "Build it" }]
    generation := 1 }

def designing : WorkflowExecution :=
  startExecution "execution" "project" none designFirst "A goal" "coordinator" 1

def designCore : CoreRuntime := { coordinatorCore with workflowExecutions := [designing] }

def designIds : FreshIds :=
  { requestId := "request", conversationId := "conversation", helperSessionId := "helper"
    mcpToken := "token", resumeRef := none }

def designPlan : HelperLaunch := helperLaunch designIds coordinator "codex" none

def designDelegation (plan : Option HelperLaunch) : Delegation :=
  { token := "secret"
    commit :=
      { executionId := "execution", stepId := "design", requestId := "request"
        conversationId := "conversation", coordinatorSessionId := "coordinator" }
    plan := plan }

def delegateDesign : List DelegateAction :=
  [.plan readyHost designIds true "secret" "Discuss this" 2 true,
    .launch (designDelegation (some designPlan)) designPlan true true,
    .complete (designDelegation none) 3 true]

theorem designCore_started : Started designCore := by
  refine ⟨rfl,?_,pairwise_singleton _ _,pairwise_singleton _ _,?_⟩
  · intro exec mem
    rw [mem_singleton.mp mem]
    decide
  · intro exec mem _
    rw [mem_singleton.mp mem]
    exact .inl rfl

theorem designIds_new : NewRequestId designCore designIds := by
  refine ⟨⟨rfl,fun _ => not_mem_nil,fun _ => nofun⟩,?_⟩
  intro exec mem
  rw [mem_singleton.mp mem]
  exact not_mem_nil

theorem delegated_design_waits :
    ∃ after, Run (Guarded Safe Step) { core := designCore, delegations := [] } delegateDesign
        after ∧
      after.core.workflowExecutions.map (fun execution => (execution.phase, awaited execution)) =
        [(.awaitingHelper, ["request"])] ∧
      ∀ execution ∈ after.core.workflowExecutions, execution.phase = .awaitingHelper →
        (∀ requestId ∈ awaited execution, Answerable after.core requestId) ∨
          OpenToRetry after.core execution := by
  refine exists_reached ⟨_,Run.cons ⟨fun _ => trivial,designIds_new,rfl⟩
    (Run.cons ⟨fun _ failed => absurd rfl failed,⟨mem_cons_self,rfl⟩,rfl⟩
      (run_single ⟨fun _ => ⟨_,rfl,rfl⟩,⟨mem_cons_self,rfl⟩,rfl⟩)),rfl⟩ ?_
  exact fun _ run _ => workflow_waits_stay_answerable designCore_started run

/-- When a discussion's helper ends unanswered, the request stays unavailable: the execution
    waits for it, and every new delegate call is refused. -/
theorem ended_helper_blocks_workflow :
    ∃ after execution, Run Step { core := designCore, delegations := [] }
        (delegateDesign ++ [.retire "helper"]) after ∧
      after.core.workflowExecutions = [execution] ∧ execution.phase = .awaitingHelper ∧
      awaited execution = ["request"] ∧
      (after.core.request? "request").map (·.status) = some .helperUnavailable ∧
      (∀ host ids profileResolves message now persisted,
        (planWorkflowDelegate host ids profileResolves "secret" message now persisted
          after.core).1 = .error .workflowExecutionState) ∧
      ¬ ((∀ requestId ∈ awaited execution, Answerable after.core requestId) ∨
        OpenToRetry after.core execution) := by
  refine ⟨_,_,Run.cons ⟨designIds_new,rfl⟩ (Run.cons ⟨⟨mem_cons_self,rfl⟩,rfl⟩
    (Run.cons ⟨⟨mem_cons_self,rfl⟩,rfl⟩ (run_single ⟨trivial,rfl⟩))),rfl,rfl,rfl,rfl,
    fun _ _ _ _ _ _ => rfl,?_⟩
  rintro (alive | retry)
  · obtain ⟨request,found,flying⟩ := alive "request" mem_cons_self
    cases found
    cases flying
  · exact retry readyHost designIds true "secret" "Discuss this" 4 true _ rfl rfl rfl

end TermloopWaits
