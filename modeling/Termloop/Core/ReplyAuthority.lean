import Termloop.Core.WorkflowProgress

/-!
What becomes of an Ask-To request over whole runs. It is answered once, by the helper whose
capability names it, and delivered when the source's own terminal has confirmed it.
-/
namespace TermloopReplies
open TermloopRecordLists TermloopRuns TermloopAskTo TermloopTables TermloopRouting
open TermloopWaits (delivered)
variable {core mid after : CoreRuntime} {action : RoutingAction} {old new : AskToRequest}
  {daemon next : Daemon} {rid sid : String}

/-- The action is the reply of the helper that the capability binds to the request. -/
def Answers (old : AskToRequest) (message : String) (core : CoreRuntime)
    (action : RoutingAction) : Prop :=
  ∃ submits token principal, action = .reply submits token old.requestId message ∧
    core.authenticate token = some principal ∧
    principal.role = .helper (some old.requestId) ∧ principal.sessionId = old.helperSessionId

/-- The action confirms the reply on its way to the source, in the epoch that asked. -/
def Confirms (old : AskToRequest) (core : CoreRuntime) (action : RoutingAction) : Prop :=
  ∃ writes submits now, action = .acknowledge writes true submits now old.sourceSessionId
      old.sourceRuntimeEpoch ∧
    core.completions.lookup old.sourceSessionId = some (.reply old.requestId)

/-- What one action may do to a request that it does not drop. -/
inductive Turns (core : CoreRuntime) (action : RoutingAction) (old : AskToRequest) :
    AskToRequest → Prop where
  | same : Turns core action old old
  | replied {message : String} (answers : Answers old message core action)
      (pending : old.status = .pending) :
      Turns core action old { old with status := .completed message }
  | delivered (confirms : Confirms old core action) :
      Turns core action old { old with replyDelivered := true }
  | unavailable (pending : old.status = .pending) :
      Turns core action old { old with status := .helperUnavailable }
  | gone : Turns core action old { old with status := .requestGone }

def Unique (core : CoreRuntime) : Prop :=
  core.requests.Pairwise fun a b => b.requestId ≠ a.requestId

def Issues (rid : String) : RoutingAction → Prop
  | .plan _ ids _ _ _ => ids.requestId = rid
  | _ => False

/-- Ids stay unique, and each request left is issued now or had its turn. -/
structure Edits (core : CoreRuntime) (action : RoutingAction) (after : CoreRuntime) : Prop where
  unique : Unique after
  turns : ∀ rid new, after.request? rid = some new → ¬ Issues rid action →
    ∃ old, core.request? rid = some old ∧ Turns core action old new

section
variable (unique : Unique core)
include unique

theorem edits_same (same : after.requests = core.requests) : Edits core action after := by
  refine ⟨by rwa [Unique, same],fun rid new hit _ => ?_⟩
  exact ⟨new,request?_of_requests same rid ▸ hit,.same⟩

theorem edits_update {change : AskToRequest → AskToRequest} (same : mid.requests = core.requests)
    (ends : after.requests = (mid.updateRequest rid change).requests)
    (keeps : ∀ request, (change request).requestId = request.requestId)
    (turns : ∀ old, core.request? rid = some old → Turns core action old (change old)) :
    Edits core action after := by
  constructor
  · rw [Unique, ends]
    refine pairwise_updateFirst (same ▸ unique) ?_ ?_
    all_goals
      intro x y _ _ apart
      rwa [keeps]
  · intro other new hit _
    rw [request?_of_requests ends, request?_updateRequest keeps, request?_of_requests same] at hit
    split at hit
    · next mine =>
      obtain ⟨old,found,rfl⟩ := Option.map_eq_some_iff.mp hit
      exact ⟨old,found,turns old (mine ▸ found)⟩
    · exact ⟨new,hit,.same⟩

theorem reply_edits {submits : Bool} {token message : String} :
    Edits core (.reply submits token rid message)
      (replyToRequest submits token rid message core).2 := by
  unfold replyToRequest
  split
  · exact edits_same unique rfl
  next principal known =>
  split
  · exact edits_same unique rfl
  next bound =>
  iterate 2 (split; · exact edits_same unique rfl)
  next request hit =>
  obtain ⟨found,own⟩ := Option.filter_eq_some_iff.mp hit
  split
  · next pending =>
    refine edits_update unique rfl tryDeliver_frame.1 (fun _ => rfl) fun old here => ?_
    cases found.symm.trans here
    cases request?_id found
    refine .replied ⟨submits,token,principal,rfl,known,by simpa using bound,?_⟩ pending
    exact (beq_iff_eq.mp own).symm
  · split
    · exact edits_same unique tryDeliver_frame.1
    · exact edits_same unique rfl
  all_goals exact edits_same unique rfl

theorem fail_edits (same : mid.requests = core.requests) :
    Edits core action (failAskToLaunch rid mid) := by
  unfold failAskToLaunch
  split
  · exact edits_same unique same
  next request found =>
  split
  · next pending =>
    refine edits_update unique same rfl (fun _ => rfl) fun old here => ?_
    rw [← request?_of_requests same] at here
    cases found.symm.trans here
    exact .unavailable (beq_iff_eq.mp pending)
  · exact edits_same unique same

theorem launch_edits {plan : HelperLaunch} {starts persisted : Bool} :
    Edits core action (runLaunch plan starts persisted core).2 := by
  have same := @launch_sameTables plan.requestId core persisted plan starts
  unfold runLaunch
  split
  · next ran =>
    rw [ran] at same
    exact edits_same unique same.requests
  · next ran =>
    rw [ran] at same
    exact fail_edits unique same.requests

end

theorem workflowReply_requests {now : Nat} {saves : Bool} :
    (completeWorkflowHelperReplyDelivery rid now saves core).2.requests = core.requests := by
  unfold completeWorkflowHelperReplyDelivery
  split
  · rfl
  split
  all_goals
    next ran => exact (TermloopProgress.replace_frame ran).1

theorem acknowledge_edits {writes : Writes} {attributed submits : Bool} {now epoch : Nat}
    (unique : Unique core) :
    Edits core (.acknowledge writes attributed submits now sid epoch)
      (completeAskToGeneratedInput writes attributed submits now sid epoch core).2 := by
  unfold completeAskToGeneratedInput
  split
  · exact edits_same unique rfl
  next completion waiting =>
  split
  · exact edits_same unique rfl
  next named =>
  split
  · exact edits_same unique rfl
  next request hit =>
  cases completion with
  | followUp =>
    dsimp only
    unfold completeFollowUp
    iterate 2 (split; · exact edits_same unique rfl)
    split
    all_goals
      next ran => exact edits_same unique (markHelper_sameTables ran).requests
  | reply =>
    dsimp only
    unfold completeReply
    split
    · exact edits_same unique rfl
    next asked =>
    split
    · exact edits_same unique rfl
    split
    · next ran => exact edits_same unique (markHelper_sameTables ran).requests
    next marked ran =>
    -- The request is ticked off whether or not its workflow can be saved.
    have ticked : ∀ after : CoreRuntime,
        after.requests = (delivered marked request.requestId).requests →
        Edits core (.acknowledge writes attributed submits now sid epoch) after := by
      intro after same
      refine edits_update unique (markHelper_sameTables ran).requests same (fun _ => rfl) ?_
      intro old here
      cases request?_id hit
      cases hit.symm.trans here
      simp only [Bool.or_eq_true, bne_iff_ne, not_or, not_not] at asked
      obtain ⟨rfl,rfl⟩ := asked
      cases attributed with
      | false => exact absurd rfl named
      | true => exact .delivered ⟨writes,submits,now,rfl,waiting⟩
    have ends := @workflowReply_requests (delivered marked request.requestId) request.requestId
      now writes.workflow
    dsimp only
    rw [← delivered]
    split
    · next last => exact ticked _ (last ▸ ends)
    · next last =>
      rw [last] at ends
      apply ticked
      dsimp only [tryDeliverAskToReplyForSource]
      split
      · exact ends
      · exact tryDeliver_frame.1.trans ends

theorem retire_edits (unique : Unique core) : Edits core action (retireAskToSession sid core) := by
  have source := fun old new kept =>
    (@loseSource_keeps old core.store (core.requestsOf sid) new kept).1
  have helper := fun old new kept => (@loseHelper_keeps sid old new kept).1
  constructor
  · exact unique_filterMap helper (unique_filterMap source unique)
  · intro rid new hit _
    rw [CoreRuntime.request?, retireAskToSession,
      find?_filterMap_key helper rid (unique_filterMap source unique),
      find?_filterMap_key source rid unique] at hit
    obtain ⟨middle,lost,kept⟩ := Option.bind_eq_some_iff.mp hit
    obtain ⟨old,found,edited⟩ := Option.bind_eq_some_iff.mp lost
    refine ⟨old,found,?_⟩
    unfold loseSource at edited
    unfold loseHelper at kept
    split at edited
    · split at edited <;> cases edited
      split at kept <;> cases kept
      exact .gone
    · cases edited
      split at kept
      · cases kept
        exact .same
      · split at kept <;> cases kept
        · next pending => exact .unavailable pending
        all_goals exact .same

theorem plan_edits {host : Host} {ids : FreshIds} {token : String} {params : AskToInput}
    {parallel : Bool} (unique : Unique core) : Edits core (.plan host ids token params parallel)
      (planAskTo host ids token params parallel core).2 := by
  constructor
  · generalize ran : planAskTo host ids token params parallel core = answer
    obtain ⟨⟨base,based,plans⟩,-⟩ := planAskTo_tables ran
    have kept : Unique base := by
      rcases based with rfl | ⟨sid,rfl,-⟩
      · exact unique
      · exact unique.filter _
    rcases plans with same | ⟨request,-,known⟩
    · rwa [Unique, same.requests]
    · rw [Unique, known.requests]
      refine List.pairwise_append.mpr ⟨kept.filter _,List.pairwise_singleton _ _,?_⟩
      intro other member last here
      rw [List.mem_singleton.mp here]
      exact Ne.symm (bne_iff_ne.mp (List.mem_filter.mp member).2)
  · intro rid new hit other
    rcases planAskTo_request rfl hit with found | ⟨issued,-⟩
    · exact ⟨new,found,.same⟩
    · exact absurd issued.symm other

theorem step_edits (unique : Unique daemon.core) (step : Step daemon action next) :
    Edits daemon.core action next.core := by
  obtain ⟨-,rfl⟩ := step
  cases action with
  | plan => exact plan_edits unique
  | launch => exact launch_edits unique
  | reply => exact reply_edits unique
  | acknowledge => exact acknowledge_edits unique
  | retire => exact retire_edits unique

section Runs
variable {start : Daemon} {actions : List RoutingAction} {message : String}

/-- In every run a request is completed only by the reply of its own helper, under the
    capability that names it, and delivered only when its source's terminal confirmed it. -/
theorem replies_are_authorised (unique : Unique start.core) (run : Run Step start actions daemon)
    (step : Step daemon action next) (fresh : ¬ Issues rid action)
    (before : daemon.core.request? rid = some old) (hit : next.core.request? rid = some new) :
    (∀ message, new.status = .completed message →
      old.status = .completed message ∨
        old.status = .pending ∧ Answers old message daemon.core action) ∧
    (new.replyDelivered = true →
      old.replyDelivered = true ∨ Confirms old daemon.core action) := by
  have unique := run_invariant (fun daemon => Unique daemon.core)
    (fun unique step => (step_edits unique step).unique) run unique
  obtain ⟨earlier,found,turns⟩ := (step_edits unique step).turns rid new hit fresh
  cases before.symm.trans found
  cases turns with
  | same => exact ⟨fun _ => .inl,.inl⟩
  | replied answers pending =>
    refine ⟨fun message done => .inr ⟨pending,?_⟩,.inl⟩
    cases done
    exact answers
  | delivered confirms => exact ⟨fun _ => .inl,fun _ => .inr confirms⟩
  | unavailable => exact ⟨nofun,.inl⟩
  | gone => exact ⟨nofun,.inl⟩

/-- Message, parties and delivery are kept, until the source is gone. -/
def Final (message : String) (old new : AskToRequest) : Prop :=
  (new.status = .completed message ∨ new.status = .requestGone) ∧
    (old.replyDelivered = true → new.replyDelivered = true) ∧
    new = { old with status := new.status, replyDelivered := new.replyDelivered }

/-- In every run that does not issue the id again, the first answer to a request stays. -/
theorem completed_answer_is_final {after : Daemon} (unique : Unique start.core)
    (run : Run (Guarded (fun _ action => ¬ Issues rid action) Step) start actions after)
    (before : start.core.request? rid = some old) (answered : old.status = .completed message)
    (hit : after.core.request? rid = some new) : Final message old new := by
  let Inv := fun daemon : Daemon => Unique daemon.core ∧
    ∀ new, daemon.core.request? rid = some new → Final message old new
  have keep {daemon action next} (inv : Inv daemon) (fresh : ¬ Issues rid action)
      (step : Step daemon action next) : Inv next := by
    have edits := step_edits inv.1 step
    refine ⟨edits.unique,fun new hit => ?_⟩
    obtain ⟨mid,found,turns⟩ := edits.turns rid new hit fresh
    obtain ⟨status,done,same⟩ := inv.2 mid found
    cases turns with
    | same => exact ⟨status,done,same⟩
    | replied _ pending => simp [pending] at status
    | delivered => exact ⟨status,fun _ => rfl,by rw [same]⟩
    | unavailable pending => simp [pending] at status
    | gone => exact ⟨.inr rfl,done,by rw [same]⟩
  have first : Inv start := by
    refine ⟨unique,fun new hit => ?_⟩
    cases before.symm.trans hit
    exact ⟨.inl answered,id,rfl⟩
  exact (guarded_run_invariant Inv keep run first).2 new hit

def askedRequest : AskToRequest :=
  newRequest (reviewIds "1") "conversation-1" "helper-1" coordinator 1 none

def askedDaemon : Daemon :=
  { core := { coordinatorCore with
      requests := [askedRequest]
      capabilities := AList.singleton "helper-1"
        { token := "token-1", sessionId := "helper-1", runtimeEpoch := 1
          role := .helper (some "request-1") } }
    launches := [] }

def review (text : String) : RoutingAction := .reply true "token-1" "request-1" text

def reviewed : Daemon := perform askedDaemon (review "Fine")

def answered : AskToRequest := { askedRequest with status := .completed "Fine" }

theorem unique_single (single : core.requests = [old]) : Unique core := by
  simp [Unique, single]

theorem reviewed_answered : reviewed.core.request? "request-1" = some answered := rfl

theorem review_is_the_helpers : Answers askedRequest "Fine" askedDaemon.core (review "Fine") := by
  have step : Step askedDaemon (review "Fine") reviewed := ⟨trivial,rfl⟩
  have shown := replies_are_authorised (unique_single rfl) (.nil _) step id rfl reviewed_answered
  exact ((shown.1 "Fine" rfl).resolve_left nofun).2

theorem second_review_changes_nothing : ∃ new,
    (perform reviewed (review "Bad")).core.request? "request-1" = some new ∧
      Final "Fine" answered new := by
  have step : Step reviewed (review "Bad") _ := ⟨trivial,rfl⟩
  exact ⟨answered,rfl,completed_answer_is_final (unique_single rfl) (run_single ⟨id,step⟩)
    reviewed_answered rfl rfl⟩

end Runs

end TermloopReplies
