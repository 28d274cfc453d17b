import Termloop.Core.AskTo

/-!
The tables of Ask-To requests: what each call does to the requests, to the list of
every source and to the replies on their way. Most calls only let the tables age; a
planned request is the one thing they gain.
-/
namespace TermloopTables
open TermloopRecordLists TermloopOutcome TermloopStore TermloopWorkflow TermloopAskTo List
open TermloopKeyed (lookup_insert_cases lookup_erase_some lookup_retain)

/-- A request that can still be answered: pending, or completed and not delivered. -/
def Answerable (core : CoreRuntime) (requestId : String) : Prop :=
  ∃ request, core.request? requestId = some request ∧ request.inFlight = true

/-- Ids are unique, sources list their own requests, and a pending request has no reply
    delivered or on its way. -/
structure Tabled (core : CoreRuntime) : Prop where
  unique : core.requests.Pairwise fun a b => b.requestId ≠ a.requestId
  owned : ∀ sessionId, ∀ requestId ∈ core.requestsOf sessionId, ∀ request,
    core.request? requestId = some request → request.sourceSessionId = sessionId
  undelivered : ∀ requestId request, core.request? requestId = some request →
    request.status = .pending → request.replyDelivered = false
  replies : ∀ target requestId request,
    core.completions.lookup target = some (.reply requestId) →
    core.request? requestId = some request → request.status ≠ .pending

structure Unseen (core : CoreRuntime) (requestId : String) : Prop where
  unknown : core.request? requestId = none
  unlisted : ∀ sessionId, requestId ∉ core.requestsOf sessionId
  undelivered : ∀ target, core.completions.lookup target ≠ some (.reply requestId)

structure SameTables (core after : CoreRuntime) : Prop where
  requests : after.requests = core.requests
  bySource : after.bySource = core.bySource
  completions : after.completions = core.completions
  executions : after.workflowExecutions = core.workflowExecutions

/-- Requests may be dropped, and one that is still pending is the one it was. -/
structure Aged (core after : CoreRuntime) : Prop where
  unique : after.requests.Pairwise fun a b => b.requestId ≠ a.requestId
  lists : ∀ sessionId, ∀ requestId ∈ after.requestsOf sessionId,
    requestId ∈ core.requestsOf sessionId
  requests : ∀ requestId next, after.request? requestId = some next →
    ∃ request, core.request? requestId = some request ∧
      next.sourceSessionId = request.sourceSessionId ∧ (next.status = .pending → next = request)
  replies : ∀ target requestId, after.completions.lookup target = some (.reply requestId) →
    core.completions.lookup target = some (.reply requestId) ∨
      ∀ next, after.request? requestId = some next → next.status ≠ .pending

variable {reqId sid token key helperId convId : String}
  {req : AskToRequest} {after core rt : CoreRuntime} {epoch : Nat}
  {ans : CoreAnswer AskToPlanOutcome} {parallel submits saves : Bool}

theorem tabled_of_aged (tabled : Tabled core) (aged : Aged core after) : Tabled after := by
  constructor
  · exact aged.unique
  · intro sid reqId mem next hit
    obtain ⟨req,pre,same,-⟩ := aged.requests reqId next hit
    exact same.trans (tabled.owned sid reqId (aged.lists _ _ mem) req pre)
  · intro reqId next hit pending
    obtain ⟨req,pre,-,still⟩ := aged.requests reqId next hit
    cases still pending
    exact tabled.undelivered reqId next pre pending
  · intro target reqId next waiting hit pending
    obtain ⟨req,pre,-,still⟩ := aged.requests reqId next hit
    rcases aged.replies target reqId waiting with old | new
    · cases still pending
      exact tabled.replies target reqId next old pre pending
    · exact new next hit pending

theorem request?_of_requests (same : after.requests = core.requests) (reqId : String) :
    after.request? reqId = core.request? reqId := by
  rw [CoreRuntime.request?, same, CoreRuntime.request?]

theorem requestsOf_of_bySource (same : after.bySource = core.bySource) (sid : String) :
    after.requestsOf sid = core.requestsOf sid := by
  rw [CoreRuntime.requestsOf, same, CoreRuntime.requestsOf]

theorem unseen_of_tables (requests : after.requests = core.requests)
    (bySource : after.bySource = core.bySource) (completions : after.completions = core.completions)
    (unseen : Unseen core reqId) : Unseen after reqId := by
  constructor
  · rw [request?_of_requests requests, unseen.unknown]
  · intro sid
    rw [requestsOf_of_bySource bySource]
    exact unseen.unlisted sid
  · rw [completions]
    exact unseen.undelivered

theorem aged_of_requests (tabled : Tabled core) (requests : after.requests = core.requests)
    (bySource : after.bySource = core.bySource)
    (replies : ∀ target reqId, after.completions.lookup target = some (.reply reqId) →
      core.completions.lookup target = some (.reply reqId) ∨
        ∀ next, core.request? reqId = some next → next.status ≠ .pending) :
    Aged core after := by
  constructor
  · exact requests ▸ tabled.unique
  · intro sid reqId mem
    rwa [requestsOf_of_bySource bySource] at mem
  · intro reqId next hit
    rw [request?_of_requests requests] at hit
    exact ⟨next,hit,rfl,fun _ => rfl⟩
  · intro target reqId waiting
    rw [request?_of_requests requests]
    exact replies target reqId waiting

theorem aged_of_sameTables (tabled : Tabled core) (same : SameTables core after) :
    Aged core after := by
  apply aged_of_requests tabled same.requests same.bySource
  intro target reqId waiting
  exact .inl (same.completions ▸ waiting)

theorem answerable_of_requests (same : after.requests = core.requests)
    (answerable : Answerable core reqId) : Answerable after reqId := by
  rwa [Answerable, request?_of_requests same]

theorem request?_id (found : rt.request? reqId = some req) : req.requestId = reqId := by
  have hit := find?_some found
  exact beq_iff_eq.mp hit

theorem request?_updateRequest
    (keeps : ∀ req, (change req).requestId = req.requestId) (updated other : String) :
    (rt.updateRequest updated change).request? other =
      if other = updated then (rt.request? other).map change else rt.request? other :=
  find?_updateFirst keeps updated other rt.requests

theorem aged_updateRequest (tabled : Tabled rt)
    (keeps : ∀ req, (change req).requestId = req.requestId)
    (source : ∀ req, (change req).sourceSessionId = req.sourceSessionId)
    (settled : ∀ req, rt.request? reqId = some req → (change req).status ≠ .pending) :
    Aged rt (rt.updateRequest reqId change) := by
  constructor
  · apply pairwise_updateFirst tabled.unique
    · intro x y _ _ apart
      rwa [keeps]
    · intro x y _ _ apart
      rwa [keeps]
  · exact fun _ _ mem => mem
  · intro other next hit
    rw [request?_updateRequest keeps] at hit
    split at hit
    · next same =>
      obtain ⟨req,pre,edited⟩ := Option.map_eq_some_iff.mp hit
      subst edited
      exact ⟨req,pre,source req, fun pending => absurd pending (settled req (same ▸ pre))⟩
    · exact ⟨next,hit,rfl,fun _ => rfl⟩
  · exact fun _ _ waiting => .inl waiting

theorem request?_forgetRequests : (forgetRequests rt sid).request? reqId =
      if (rt.requestsOf sid).contains reqId then none else rt.request? reqId := by
  have kept := @find?_filter_key _ _ AskToRequest.requestId _ _
    (fun id => !(rt.requestsOf sid).contains id) reqId rt.requests
  rw [CoreRuntime.request?, forgetRequests, kept, CoreRuntime.request?]
  cases (rt.requestsOf sid).contains reqId <;> rfl

theorem requestsOf_forgetRequests (mem : reqId ∈ (forgetRequests rt sid).requestsOf other) :
    reqId ∈ rt.requestsOf other := by
  unfold CoreRuntime.requestsOf forgetRequests at mem
  by_cases same : other = sid
  · subst same
    rw [AList.lookup_erase] at mem
    cases mem
  · rwa [AList.lookup_erase_ne same] at mem

theorem aged_forgetRequests (tabled : Tabled rt) : Aged rt (forgetRequests rt sid) := by
  constructor
  · exact tabled.unique.filter _
  · exact fun _ _ => requestsOf_forgetRequests
  · intro reqId next hit
    rw [request?_forgetRequests] at hit
    split at hit
    · cases hit
    · exact ⟨next,hit,rfl,fun _ => rfl⟩
  · exact fun _ _ waiting => .inl waiting

theorem unseen_forgetRequests (unseen : Unseen rt reqId) :
    Unseen (forgetRequests rt sid) reqId := by
  refine ⟨?_,?_,unseen.undelivered⟩
  · rw [request?_forgetRequests, unseen.unknown]
    split <;> rfl
  · exact fun other mem => unseen.unlisted other (requestsOf_forgetRequests mem)

theorem scanRequests_settled {key : Option String} {requestIds : List String}
    (passed : scanRequests rt key false requestIds = .ok none) :
    ∀ reqId ∈ requestIds, ¬ Answerable rt reqId := by
  induction requestIds with
  | nil => exact fun _ mem => nomatch mem
  | cons currentId rest ih =>
    rw [scanRequests] at passed
    split at passed
    · cases passed
    next cur hit =>
    iterate 2 (split at passed; · cases passed)
    next idle =>
    intro reqId mem
    rcases mem_cons.mp mem with here | later
    · rintro ⟨req,at_id,flying⟩
      rw [here, hit] at at_id
      cases at_id
      exact idle (by simp [flying])
    · exact ih passed reqId later

structure Registered (rt : CoreRuntime) (request : AskToRequest) (after : CoreRuntime) : Prop where
  requests : after.requests = (registerRequest rt request).requests
  bySource : after.bySource = (registerRequest rt request).bySource
  executions : after.workflowExecutions = rt.workflowExecutions
  replies : ∀ target requestId, after.completions.lookup target = some (.reply requestId) →
    rt.completions.lookup target = some (.reply requestId)
  pending : request.status = .pending
  undelivered : request.replyDelivered = false

theorem request?_registered (known : Registered rt req after) (reqId : String) :
    after.request? reqId = if reqId = req.requestId then some req else rt.request? reqId := by
  have kept := @find?_filter_key _ _ AskToRequest.requestId _ _
    (fun id => id != req.requestId) reqId rt.requests
  rw [request?_of_requests known.requests, CoreRuntime.request?]
  simp only [registerRequest, CoreRuntime.insertRequest, find?_append, kept]
  by_cases same : reqId = req.requestId
  · simp [same]
  · have other : ¬ req.requestId = reqId := fun h => same h.symm
    simp [same, other, CoreRuntime.request?]

theorem requestsOf_registered (known : Registered rt req after) (sid : String) :
    after.requestsOf sid =
      if sid = req.sourceSessionId then
        rt.requestsOf sid ++ [req.requestId]
      else rt.requestsOf sid := by
  rw [requestsOf_of_bySource known.bySource, CoreRuntime.requestsOf]
  simp only [registerRequest]
  by_cases same : sid = req.sourceSessionId
  · subst same
    simp [AList.lookup_insert]
  · rw [AList.lookup_insert_ne same, if_neg same, CoreRuntime.requestsOf]

theorem tabled_registered (tabled : Tabled rt) (unseen : Unseen rt req.requestId)
    (known : Registered rt req after) :
    Tabled after := by
  constructor
  · rw [known.requests, registerRequest, CoreRuntime.insertRequest]
    apply pairwise_append.mpr
    refine ⟨tabled.unique.filter _,pairwise_singleton _ _,?_⟩
    intro old mem new here
    rw [mem_singleton.mp here]
    have other := (mem_filter.mp mem).2
    exact fun same => by simp [same] at other
  · intro sid reqId mem hit at_id
    rw [requestsOf_registered known] at mem
    rw [request?_registered known] at at_id
    by_cases fresh : reqId = req.requestId
    · rw [if_pos fresh] at at_id
      cases at_id
      by_cases mine : sid = req.sourceSessionId
      · exact mine.symm
      · rw [if_neg mine, fresh] at mem
        exact absurd mem (unseen.unlisted sid)
    · rw [if_neg fresh] at at_id
      have old : reqId ∈ rt.requestsOf sid := by
        split at mem
        · simpa [fresh] using mem
        · exact mem
      exact tabled.owned sid reqId old hit at_id
  · intro reqId hit at_id pending
    rw [request?_registered known] at at_id
    split at at_id
    · cases at_id
      exact known.undelivered
    · exact tabled.undelivered reqId hit at_id pending
  · intro target reqId hit waiting at_id
    have old := known.replies target reqId waiting
    rw [request?_registered known] at at_id
    split at at_id
    · next fresh => exact absurd (fresh ▸ old) (unseen.undelivered target)
    · exact tabled.replies target reqId hit old at_id

section Plans
variable {host : Host} {ids : FreshIds} {params : AskToInput}

theorem sameTables_refl : SameTables rt rt := ⟨rfl,rfl,rfl,rfl⟩

def Plans (ids : FreshIds) (base after : CoreRuntime) : Prop :=
  SameTables base after ∨
    ∃ request, request.requestId = ids.requestId ∧ Registered base request after

def Helper (ids : FreshIds) (rt : CoreRuntime) (helperSessionId : String) : Prop :=
  helperSessionId = ids.helperSessionId ∨
    ∃ session ∈ rt.store.sessions, session.id = helperSessionId

/-- The end of a plan refuses and leaves the tables, or registers the request under its key.
    -/
inductive Asked (ids : FreshIds) (params : AskToInput) (rt : CoreRuntime) :
    CoreAnswer AskToPlanOutcome → Prop where
  | refuses {error : CoreError} {after : CoreRuntime} (planned : error.ofPlan = true)
      (same : SameTables rt after) : Asked ids params rt (.error error, after)
  | registers {outcome : AskToPlanOutcome} {request : AskToRequest} {after : CoreRuntime}
      (answers : outcome.requestId = request.requestId) (new : request.requestId = ids.requestId)
      (key : request.idempotencyKey = params.idempotencyKey)
      (helper : Helper ids rt request.helperSessionId) (registered : Registered rt request after) :
      Asked ids params rt (.ok outcome, after)

theorem followUp_asked {source : SessionRecord}
    (ran : planAskToFollowUp host ids source epoch convId params rt = ans) :
    Asked ids params rt ans := by
  have refused : ∀ error : CoreError, error.ofPlan → (.error error, rt) = ans →
      Asked ids params rt ans := by
    rintro error planned rfl
    exact Asked.refuses planned sameTables_refl
  unfold planAskToFollowUp at ran
  iterate 2 (split at ran; · exact refused _ rfl ran)
  next helper hit =>
  split at ran
  · subst ran
    exact Asked.refuses rfl ⟨rfl,rfl,rfl,rfl⟩
  split at ran
  · exact refused _ rfl ran
  split at ran
  · split at ran
    · exact refused _ rfl ran
    subst ran
    refine @Asked.registers _ _ _ _
      (newRequest ids convId helper.id source epoch params.idempotencyKey)
      _ rfl rfl rfl (.inr ⟨helper,mem_of_find?_eq_some hit,rfl⟩)
      ⟨rfl,rfl,rfl,?_,rfl,rfl⟩
    intro target reqId waiting
    rcases lookup_insert_cases waiting with ⟨-,wrong⟩ | ⟨-,waiting⟩
    · cases wrong
    · exact waiting
  all_goals exact refused _ rfl ran

theorem freshHelper_asked {source : SessionRecord}
    (ran : planFreshHelper host ids source epoch params rt = ans) :
    Asked ids params rt ans := by
  dsimp only [planFreshHelper] at ran
  split at ran
  · subst ran
    exact Asked.refuses rfl sameTables_refl
  split at ran
  · subst ran
    exact Asked.refuses rfl sameTables_refl
  split at ran
  · next guarded =>
    subst ran
    refine Asked.refuses ?_ sameTables_refl
    unfold inheritedGuard at guarded
    split at guarded
    · cases guarded
    split at guarded <;> cases guarded
    rfl
  · subst ran
    exact @Asked.registers _ _ _ _
      (newRequest ids ids.conversationId ids.helperSessionId source epoch params.idempotencyKey)
      _ rfl rfl rfl (.inl rfl) ⟨rfl,rfl,rfl,fun _ _ waiting => waiting,rfl,rfl⟩

theorem plans_of_asked (asked : Asked ids params rt ans) :
    Plans ids rt ans.2 ∧ ∀ error, ans.1 = .error error → error.ofPlan := by
  cases asked with
  | refuses planned same => exact ⟨.inl same,fun other h => Except.error.inj h ▸ planned⟩
  | registers _ new _ _ known => exact ⟨.inr ⟨_,new,known⟩,nofun⟩

/-- The tables as they are, or without the settled requests of the source. -/
def PlanBase (rt base : CoreRuntime) : Prop :=
  base = rt ∨ ∃ sessionId, base = forgetRequests rt sessionId ∧
    ∀ requestId ∈ rt.requestsOf sessionId, ¬ Answerable rt requestId

theorem planBase_of_scan {key : Option String}
    (passed : scanRequests rt key parallel (rt.requestsOf sid) = .ok none) :
    PlanBase rt (planBase parallel sid rt) := by
  cases parallel with
  | true => exact .inl rfl
  | false => exact .inr ⟨sid,rfl,scanRequests_settled passed⟩

theorem planAskTo_tables (ran : planAskTo host ids token params parallel rt = ans) :
    (∃ base, PlanBase rt base ∧ Plans ids base ans.2) ∧
      ∀ error, ans.1 = .error error → error.ofPlan := by
  rcases planAskTo_cases ran with ⟨error,planned,rfl⟩ | ⟨-,reqId,-,rfl⟩ | ⟨sid,passed,walked⟩
  · exact ⟨⟨rt,.inl rfl,.inl sameTables_refl⟩, fun other same => Except.error.inj same ▸ planned⟩
  · exact ⟨⟨rt,.inl rfl,.inl sameTables_refl⟩,nofun⟩
  · have based := planBase_of_scan passed
    rcases walked with rfl | ⟨source,-,-,epoch,⟨convId,asks⟩ | launches⟩
    · refine ⟨⟨_,based,.inl sameTables_refl⟩,fun error same => ?_⟩
      cases same
      rfl
    · have planned := plans_of_asked (followUp_asked asks)
      exact ⟨⟨_,based,planned.1⟩,planned.2⟩
    · have planned := plans_of_asked (freshHelper_asked launches)
      exact ⟨⟨_,based,planned.1⟩,planned.2⟩

theorem scanRequests_key
    (again : scanRequests rt (some key) parallel requestIds = .ok (some reqId)) :
    ∃ req, rt.request? reqId = some req ∧ req.idempotencyKey = some key := by
  induction requestIds with
  | nil => cases again
  | cons currentId rest ih =>
    rw [scanRequests] at again
    split at again
    · cases again
    next cur hit =>
    split at again
    · next same =>
      cases again
      rw [request?_id hit]
      simp only [Option.isSome_some, Bool.true_and, beq_iff_eq] at same
      exact ⟨cur,hit,same.symm⟩
    · split at again
      · cases again
      · exact ih again

theorem asked_request (asked : Asked ids params rt ans) (hit : ans.2.request? reqId = some req) :
    rt.request? reqId = some req ∨ reqId = ids.requestId ∧ Helper ids rt req.helperSessionId := by
  cases asked with
  | refuses _ same =>
    rw [request?_of_requests same.requests] at hit
    exact .inl hit
  | registers _ new _ helper known =>
    rw [request?_registered known] at hit
    split at hit
    · next same =>
      cases hit
      exact .inr ⟨same.trans new,helper⟩
    · exact .inl hit

theorem asked_key (asked : Asked ids params rt (.ok outcome, after)) :
    ∃ req, after.request? outcome.requestId = some req ∧
      req.idempotencyKey = params.idempotencyKey := by
  cases asked with
  | @registers _ req _ answers new key helper known =>
    refine ⟨req,?_,key⟩
    rw [request?_registered known, if_pos answers]

theorem request?_planBase (hit : (planBase parallel sid rt).request? reqId = some req) :
    rt.request? reqId = some req := by
  unfold planBase at hit
  split at hit
  · exact hit
  rw [request?_forgetRequests] at hit
  split at hit
  · cases hit
  · exact hit

theorem store_planBase : (planBase parallel sid rt).store = rt.store := by
  unfold planBase
  split <;> rfl

theorem planAskTo_request (ran : planAskTo host ids token params parallel rt = ans)
    (hit : ans.2.request? reqId = some req) :
    rt.request? reqId = some req ∨ reqId = ids.requestId ∧ Helper ids rt req.helperSessionId := by
  rcases planAskTo_cases ran with ⟨error,-,rfl⟩ | ⟨-,earlier,-,rfl⟩ | ⟨sid,-,walked⟩
  · exact .inl hit
  · exact .inl hit
  · have named : Asked ids params (planBase parallel sid rt) ans → rt.request? reqId = some req ∨
          reqId = ids.requestId ∧ Helper ids rt req.helperSessionId := by
      intro asked
      rcases asked_request asked hit with old | ⟨new,helper⟩
      · exact .inl (request?_planBase old)
      · rw [Helper, store_planBase] at helper
        exact .inr ⟨new,helper⟩
    rcases walked with rfl | ⟨source,-,-,epoch,⟨convId,asks⟩ | launches⟩
    · exact .inl (request?_planBase hit)
    · exact named (followUp_asked asks)
    · exact named (freshHelper_asked launches)

theorem planAskTo_key (ran : planAskTo host ids token params parallel rt = (.ok outcome, after))
    (keyed : params.idempotencyKey = some key) :
    ∃ req, after.request? outcome.requestId = some req ∧ req.idempotencyKey = some key := by
  rcases planAskTo_cases ran with ⟨error,-,refused⟩ | ⟨sid,reqId,again,same⟩ | ⟨sid,-,walked⟩
  · cases refused
  · cases same
    exact scanRequests_key (keyed ▸ again)
  · rcases walked with refused | ⟨source,-,-,epoch,⟨convId,asks⟩ | launches⟩
    · cases refused
    · exact keyed ▸ asked_key (followUp_asked asks)
    · exact keyed ▸ asked_key (freshHelper_asked launches)

end Plans

theorem launch_sameTables : SameTables rt (completeAskToLaunch reqId plan starts saves rt).2 := by
  unfold completeAskToLaunch
  iterate 2 (split; · exact sameTables_refl)
  unfold completeAgentLaunch
  iterate 2 (split; · exact sameTables_refl)
  · split <;> exact ⟨rfl,rfl,rfl,rfl⟩

theorem sameTables_trans {a b c : CoreRuntime} (first : SameTables a b)
    (second : SameTables b c) : SameTables a c :=
  ⟨second.requests.trans first.requests,second.bySource.trans first.bySource,
    second.completions.trans first.completions,second.executions.trans first.executions⟩

theorem setCurrentRequest_sameTables {reqId : Option String} :
    SameTables rt (setCurrentRequest helperId convId reqId saves rt).2 := by
  unfold setCurrentRequest
  split <;> exact ⟨rfl,rfl,rfl,rfl⟩

theorem bind_sameTables {reqId : Option String}
    (bound : bindHelperRequest sid epoch reqId rt = some after) :
    SameTables rt after := by
  unfold bindHelperRequest at bound
  split at bound
  · cases bound
  split at bound
  · split at bound
    · cases bound
      exact ⟨rfl,rfl,rfl,rfl⟩
    · cases bound
  · cases bound

theorem markHelper_sameTables {ans : CoreAnswer Unit}
    (ran : markHelper writes helperId convId epoch new previous rt =
      ans) : SameTables rt ans.2 := by
  subst ran
  have marks :=
    @setCurrentRequest_sameTables helperId convId rt writes.mark new
  unfold markHelper
  generalize setCurrentRequest helperId convId new writes.mark rt = ans at marks
  obtain ⟨result,marked⟩ := ans
  cases result with
  | error error => exact marks
  | ok done =>
    cases bound : bindHelperRequest helperId epoch new marked with
    | some after =>
      simp only [bound]
      exact sameTables_trans marks (bind_sameTables bound)
    | none =>
      simp only [bound]
      exact sameTables_trans marks setCurrentRequest_sameTables

theorem tryDeliver_effect : tryDeliverAskToReply submits reqId rt = rt ∨
      ∃ req, rt.request? reqId = some req ∧ req.status ≠ .pending ∧
        tryDeliverAskToReply submits reqId rt = { rt with
          completions := rt.completions.insert req.sourceSessionId (.reply reqId) } := by
  unfold tryDeliverAskToReply
  split
  · exact .inl rfl
  next req hit =>
  split
  · exact .inl rfl
  next ready =>
  refine .inr ⟨req,hit,fun pending => ready ?_,rfl⟩
  simp [pending, AskToStatus.isCompleted]

theorem tryDeliver_frame : (tryDeliverAskToReply submits reqId rt).requests = rt.requests ∧
      (tryDeliverAskToReply submits reqId rt).workflowExecutions = rt.workflowExecutions := by
  rcases @tryDeliver_effect reqId rt submits with same | ⟨req,-,-,delivers⟩
  · rw [same]
    exact ⟨rfl,rfl⟩
  · rw [delivers]
    exact ⟨rfl,rfl⟩

theorem aged_tryDeliver (tabled : Tabled rt) : Aged rt (tryDeliverAskToReply submits reqId rt) := by
  rcases @tryDeliver_effect reqId rt submits with same | ⟨req,hit,replied,delivers⟩
  · rw [same]
    exact aged_of_sameTables tabled sameTables_refl
  rw [delivers]
  refine aged_of_requests tabled rfl rfl fun target other waiting => ?_
  rcases lookup_insert_cases waiting with ⟨-,same⟩ | ⟨-,waiting⟩
  · cases same
    refine .inr fun next at_id => ?_
    rw [hit] at at_id
    cases at_id
    exact replied
  · exact .inl waiting

theorem failAskToLaunch_effect : failAskToLaunch reqId rt = rt ∨
      SameTables (rt.updateRequest reqId fun req =>
        { req with status := .helperUnavailable }) (failAskToLaunch reqId rt) := by
  unfold failAskToLaunch
  split
  · exact .inl rfl
  split
  · exact .inr ⟨rfl,rfl,rfl,rfl⟩
  · exact .inl rfl

theorem loseSource_keeps (kept : loseSource store requestIds req = some new) :
    new.requestId = req.requestId ∧ new.sourceSessionId = req.sourceSessionId ∧
      (new.status = .pending → new = req) := by
  unfold loseSource at kept
  split at kept
  · split at kept
    · cases kept
      exact ⟨rfl,rfl,nofun⟩
    · cases kept
  · cases kept
    exact ⟨rfl,rfl,fun _ => rfl⟩

theorem loseHelper_keeps (kept : loseHelper sid req = some new) :
    new.requestId = req.requestId ∧ new.sourceSessionId = req.sourceSessionId ∧
      (new.status = .pending → new = req) := by
  unfold loseHelper at kept
  split at kept
  · cases kept
    exact ⟨rfl,rfl,fun _ => rfl⟩
  · split at kept <;> cases kept
    · exact ⟨rfl,rfl,nofun⟩
    all_goals exact ⟨rfl,rfl,fun _ => rfl⟩

theorem unique_filterMap {change : AskToRequest → Option AskToRequest}
    {requests : List AskToRequest}
    (keeps : ∀ req next, change req = some next → next.requestId = req.requestId)
    (unique : requests.Pairwise fun a b => b.requestId ≠ a.requestId) :
    (requests.filterMap change).Pairwise fun a b => b.requestId ≠ a.requestId := by
  apply pairwise_filterMap.mpr
  apply unique.imp
  intro a b apart x madeX y madeY
  rw [keeps a x madeX, keeps b y madeY]
  exact apart

theorem request?_retire (tabled : Tabled rt) : (retireAskToSession sid rt).request? reqId =
      ((rt.request? reqId).bind (loseSource rt.store (rt.requestsOf sid))).bind
        (loseHelper sid) := by
  have source := fun req next kept =>
    (@loseSource_keeps req rt.store (rt.requestsOf sid) next kept).1
  have helper := fun req next kept => (@loseHelper_keeps sid req next kept).1
  rw [CoreRuntime.request?, retireAskToSession, CoreRuntime.request?]
  rw [find?_filterMap_key helper reqId (unique_filterMap source tabled.unique),
    find?_filterMap_key source reqId tabled.unique]

theorem aged_retire (tabled : Tabled rt) : Aged rt (retireAskToSession sid rt) := by
  constructor
  · apply unique_filterMap fun _ _ kept => (loseHelper_keeps kept).1
    exact unique_filterMap (fun _ _ kept => (loseSource_keeps kept).1) tabled.unique
  · intro other reqId mem
    exact @requestsOf_forgetRequests reqId sid rt other mem
  · intro reqId next hit
    rw [request?_retire tabled] at hit
    obtain ⟨middle,lost,kept⟩ := Option.bind_eq_some_iff.mp hit
    obtain ⟨req,pre,edited⟩ := Option.bind_eq_some_iff.mp lost
    obtain ⟨-,sourceLater,pendingLater⟩ := loseHelper_keeps kept
    obtain ⟨-,sourceFirst,pendingFirst⟩ := loseSource_keeps edited
    refine ⟨req,pre,sourceLater.trans sourceFirst,fun pending => ?_⟩
    have same := pendingLater pending
    exact same.trans (pendingFirst (same ▸ pending))
  · intro target completion waiting
    rw [retireAskToSession, lookup_retain] at waiting
    exact .inl (Option.filter_eq_some_iff.mp waiting).1

theorem answerable_retire (tabled : Tabled rt) (hit : rt.request? reqId = some req)
    (flying : req.inFlight) (source : req.sourceSessionId ≠ sid)
    (helper : req.helperSessionId = sid → req.status ≠ .pending) :
    Answerable (retireAskToSession sid rt) reqId := by
  have unlisted : (rt.requestsOf sid).contains req.requestId = false := by
    rw [request?_id hit]
    by_contra mem
    rw [Bool.not_eq_false, contains_iff_mem] at mem
    exact source (tabled.owned sid reqId mem req hit)
  have first : loseSource rt.store (rt.requestsOf sid) req = some req := by
    simp only [loseSource, unlisted, Bool.false_eq_true, if_false]
  have second : loseHelper sid req = some req := by
    by_cases own : req.helperSessionId = sid
    · have answered := helper own
      cases status : req.status with
      | pending => exact absurd status answered
      | completed msg => simp [loseHelper, own, status]
      | helperUnavailable => simp [loseHelper, own, status]
      | requestGone => simp [AskToRequest.inFlight, status, AskToStatus.isCompleted] at flying
    · simp [loseHelper, own]
  refine ⟨req,?_,flying⟩
  rw [request?_retire tabled, hit, Option.bind_some, first, Option.bind_some, second]

end TermloopTables
