import Termloop.Lib.KeyedTables
import Termloop.Core.Workflow
import Termloop.Store.SessionRecords

/-!
The Ask-To part of the Core runtime: the table of requests, the conversations, the
generated inputs still on their way, and the capability that each Agent acts under.
The catalogue of agents, the terminal and the random ids answer through the
arguments of a call; everything else is read from the runtime itself, and a call
that is refused late keeps what it has already changed.
-/
namespace TermloopAskTo
open TermloopRecordLists TermloopOutcome TermloopKeyed TermloopText TermloopStore TermloopWorkflow

def projectLiveHelperLimit : Nat := 4
def daemonLiveHelperLimit : Nat := 16

inductive AskToStatus where
  | pending
  | completed (message : String)
  | helperUnavailable | requestGone
  deriving DecidableEq

def AskToStatus.name : AskToStatus → String
  | .pending => "pending"
  | .completed _ => "completed"
  | .helperUnavailable => "helperUnavailable"
  | .requestGone => "requestGone"

def AskToStatus.isCompleted : AskToStatus → Bool
  | .completed _ => true
  | _ => false

structure AskToRequest where
  (requestId conversationId sourceSessionId : String)
  sourceRuntimeEpoch : Nat
  (helperSessionId projectId : String)
  idempotencyKey : Option String
  status : AskToStatus
  replyDelivered : Bool

/-- The helper still owes a reply, or its reply is not delivered yet. -/
def AskToRequest.inFlight (request : AskToRequest) : Bool :=
  request.status == .pending || (request.status.isCompleted && !request.replyDelivered)

inductive GeneratedInputCompletion where
  | followUp (requestId : String)
  | reply (requestId : String)

def GeneratedInputCompletion.requestId : GeneratedInputCompletion → String
  | .followUp requestId | .reply requestId => requestId

structure AskToConversation where
  sourceSessionId : String
  sourceRuntimeEpoch : Nat
  helperSessionId : String
  helperRuntimeEpoch : Nat
  (projectId target : String)

inductive AgentMcpRole where
  | interactive
  | playbookEvaluator (checkId : String)
  | improver
  | steward (projectId : String)
  | helper (requestId : Option String)
  deriving DecidableEq

structure AgentMcpCapability where
  (token sessionId : String)
  runtimeEpoch : Nat
  role : AgentMcpRole

inductive CoreError where
  | capabilityDenied
  | invalidParams (field : String)
  | askToRequestUnavailable
  | askToInProgress (requestId status : String)
  | askToAlreadyReplied | askToRequestGone | conversationUnavailable | conversationBusy
  | helperCapacityExhausted
  | taskWorktreeUnavailable (taskId : String)
  | workflowExecutionState | notFound
  | store (error : StoreError)
  /-- A refusal by the agent catalogue, an account, the terminal or a directory. -/
  | refused

structure CoreRuntime where
  store : CurrentState
  workflowExecutions : List WorkflowExecution
  runtimeEpoch : Nat
  requests : List AskToRequest
  bySource : AList fun _ : String => List String
  conversations : AList fun _ : String => AskToConversation
  completions : AList fun _ : String => GeneratedInputCompletion
  capabilities : AList fun _ : String => AgentMcpCapability

abbrev CoreAnswer (α : Type) : Type := Outcome CoreError CoreRuntime α

namespace CoreRuntime

def request? (rt : CoreRuntime) (requestId : String) : Option AskToRequest :=
  rt.requests.find? (·.requestId == requestId)

def insertRequest (rt : CoreRuntime) (request : AskToRequest) : CoreRuntime :=
  { rt with
    requests := rt.requests.filter (·.requestId != request.requestId) ++
      [request] }

def updateRequest (rt : CoreRuntime) (requestId : String)
    (change : AskToRequest → AskToRequest) : CoreRuntime :=
  { rt with
    requests := updateFirst (·.requestId == requestId) change rt.requests }

def authenticate (rt : CoreRuntime) (token : String) : Option AgentMcpCapability :=
  (rt.capabilities.entries.find? (·.2.token == token)).map (·.2)

def requestsOf (rt : CoreRuntime) (sourceSessionId : String) : List String :=
  (rt.bySource.lookup sourceSessionId).getD []

def liveHelper (session : SessionRecord) : Bool :=
  session.lifecycleState == "running"
    && session.process.templateRef == some askToHelperTemplate

def launching (rt : CoreRuntime) : List AskToRequest :=
  rt.requests.filter fun request =>
    request.status == .pending
      && !rt.store.sessions.any (·.id == request.helperSessionId)

def liveHelperCounts (rt : CoreRuntime) (projectId : String) : Nat × Nat :=
  let live := rt.store.sessions.filter liveHelper
  (live.length + rt.launching.length,
    (live.filter (·.projectId == projectId)).length
      + (rt.launching.filter (·.projectId == projectId)).length)

end CoreRuntime

structure AskToInput where
  (target message : String)
  (model reasoning idempotencyKey conversationId : Option String)
  launchSelection : Option AgentLaunchSelection
  pinsProfile : Bool

inductive AgentState where
  | idle | working | awaitingInput | other
  deriving DecidableEq

/-- The last signal of a helper; a hook or the daemon's bridge makes it trusted. -/
structure HelperObservation where
  state : AgentState
  trusted : Bool

structure Host where
  (supportsTrackedHelpers configurationAccepted : Bool)
  /-- The launch options, the transport, the account and the directory are in order. -/
  (launchable helperRunning : Bool)
  observation : Option HelperObservation
  /-- The generated text is built and handed to the terminal. -/
  submits : Bool

structure FreshIds where
  (requestId conversationId helperSessionId mcpToken : String)
  resumeRef : Option ResumeRef

/-- The part of a launch plan that becomes the helper's descriptor. -/
structure HelperLaunch where
  (sessionId projectId cwd agentId requestId sourceSessionId : String)
  continuation : AskToContinuation
  guard : Option ResumeLaunchGuard
  mcpToken : String
  resumeRef : Option ResumeRef
  deriving DecidableEq

inductive AskToPlanOutcome where
  | existing (requestId : String)
  | followUp (requestId : String)
  | launch (plan : HelperLaunch)

def AskToPlanOutcome.requestId : AskToPlanOutcome → String
  | .existing requestId | .followUp requestId => requestId
  | .launch plan => plan.requestId

def charsExceed (text : String) (limit : Nat) : Bool := decide (limit < text.toList.length)

def messageIsInvalid (message : String) : Bool :=
  isBlank message || charsExceed message 32768
    || message.toList.any fun c => isControl c && !(c == '\n' || c == '\t')

def keyIsInvalid (key : String) : Bool := isBlank key || charsExceed key 128

def AskToInput.refusal (params : AskToInput) (host : Host) : Option CoreError :=
  if !host.supportsTrackedHelpers || messageIsInvalid params.message
      || params.idempotencyKey.any keyIsInvalid || params.conversationId.any keyIsInvalid
      || (params.conversationId.isSome && (params.launchSelection.isSome || params.pinsProfile))
      then some (.invalidParams "askTo")
  else if params.conversationId.isSome && (params.model.isSome || params.reasoning.isSome) then
    some (.invalidParams
      "model and reasoning apply only to a new Ask-To helper; omit them with conversationId")
  else if !host.configurationAccepted then some .refused
  else none

/-- A request with the same key is answered again; without `allowParallel` one in flight
    stops the walk. -/
def scanRequests (rt : CoreRuntime) (key : Option String) (allowParallel : Bool) :
    List String → Except CoreError (Option String)
  | [] => .ok none
  | currentId :: rest =>
    match rt.request? currentId with
    | none => .error .askToRequestUnavailable
    | some current =>
      if key.isSome && key == current.idempotencyKey then .ok (some current.requestId)
      else if !allowParallel && current.inFlight then
        .error (.askToInProgress current.requestId current.status.name)
      else scanRequests rt key allowParallel rest

/-- A source that may have one request at a time forgets its earlier ones. -/
def forgetRequests (rt : CoreRuntime) (sourceSessionId : String) : CoreRuntime :=
  { rt with
    bySource := rt.bySource.erase sourceSessionId
    requests := rt.requests.filter fun request =>
      !(rt.requestsOf sourceSessionId).contains request.requestId }

def registerRequest (rt : CoreRuntime) (request : AskToRequest) : CoreRuntime :=
  { rt.insertRequest request with
    bySource := rt.bySource.insert request.sourceSessionId
      (rt.requestsOf request.sourceSessionId ++ [request.requestId]) }

def newRequest (ids : FreshIds) (conversationId helperSessionId : String)
    (source : SessionRecord) (runtimeEpoch : Nat) (key : Option String) : AskToRequest :=
  { requestId := ids.requestId, conversationId := conversationId, sourceSessionId := source.id
    sourceRuntimeEpoch := runtimeEpoch, helperSessionId := helperSessionId
    projectId := source.projectId, idempotencyKey := key, status := .pending
    replyDelivered := false }

def ownConversation (rt : CoreRuntime) (source : SessionRecord) (runtimeEpoch : Nat)
    (conversationId target : String) : Option AskToConversation :=
  (rt.conversations.lookup conversationId).filter fun conversation =>
    conversation.sourceSessionId == source.id
      && conversation.sourceRuntimeEpoch == runtimeEpoch
      && conversation.projectId == source.projectId && conversation.target == target

def conversationHelper (rt : CoreRuntime) (conversation : AskToConversation) :
    Option SessionRecord :=
  rt.store.sessions.find? fun session =>
    session.id == conversation.helperSessionId && session.projectId == conversation.projectId
      && session.runtimeEpoch == conversation.helperRuntimeEpoch
      && session.lifecycleState == "running"
      && session.process.agentId == some conversation.target
      && session.process.templateRef == some askToHelperTemplate

def planAskToFollowUp (host : Host) (ids : FreshIds) (source : SessionRecord)
    (runtimeEpoch : Nat) (conversationId : String) (params : AskToInput) (rt : CoreRuntime) :
    CoreAnswer AskToPlanOutcome :=
  match ownConversation rt source runtimeEpoch conversationId params.target with
  | none => (.error .conversationUnavailable, rt)
  | some conversation =>
    match conversationHelper rt conversation with
    | none => (.error .conversationUnavailable, rt)
    | some helper =>
      if !host.helperRunning then
        (.error .conversationUnavailable,
          { rt with conversations := rt.conversations.erase conversationId })
      else
        match host.observation with
        | none => (.error .conversationUnavailable, rt)
        | some observation =>
          match observation.state, observation.trusted with
          | .idle, true =>
            if !host.submits then (.error .refused, rt)
            else
              let registered := registerRequest rt (newRequest ids conversationId helper.id source
                runtimeEpoch params.idempotencyKey)
              (.ok (.followUp ids.requestId), { registered with
                completions := rt.completions.insert helper.id (.followUp ids.requestId) })
          | .working, _ | .awaitingInput, _ => (.error .conversationBusy, rt)
          | _, _ => (.error .conversationUnavailable, rt)

/-- The helper inherits the guard while the managed checkout is the one it names. -/
def inheritedGuard (store : CurrentState) (source : SessionRecord) :
    Except CoreError (Option ResumeLaunchGuard) :=
  match source.resumeLaunchGuard with
  | none => .ok none
  | some guard =>
    if !store.managedWorktrees.any (fun proof =>
        proof.taskId == guard.taskId && proof.operationId == guard.managedWorktreeOperationId
          && proof.worktreeGeneration == guard.worktreeGeneration)
        || guard.path != source.process.cwd then
      .error (.taskWorktreeUnavailable guard.taskId)
    else .ok (some guard)

def helperLaunch (ids : FreshIds) (source : SessionRecord) (target : String)
    (guard : Option ResumeLaunchGuard) : HelperLaunch :=
  { sessionId := ids.helperSessionId, projectId := source.projectId, cwd := source.process.cwd
    agentId := target, requestId := ids.requestId, sourceSessionId := source.id
    continuation :=
      { conversationId := ids.conversationId, currentRequestId := some ids.requestId }
    guard := guard, mcpToken := ids.mcpToken, resumeRef := ids.resumeRef }

def planFreshHelper (host : Host) (ids : FreshIds) (source : SessionRecord) (runtimeEpoch : Nat)
    (params : AskToInput) (rt : CoreRuntime) : CoreAnswer AskToPlanOutcome :=
  let counts := rt.liveHelperCounts source.projectId
  if counts.1 ≥ daemonLiveHelperLimit || counts.2 ≥ projectLiveHelperLimit then
    (.error .helperCapacityExhausted, rt)
  else if !host.launchable then (.error .refused, rt)
  else
    match inheritedGuard rt.store source with
    | .error error => (.error error, rt)
    | .ok guard =>
      let registered := registerRequest rt (newRequest ids ids.conversationId ids.helperSessionId
        source runtimeEpoch params.idempotencyKey)
      (.ok (.launch (helperLaunch ids source params.target guard)),
        { registered with
          conversations := rt.conversations.insert ids.conversationId
            { sourceSessionId := source.id, sourceRuntimeEpoch := runtimeEpoch
              helperSessionId := ids.helperSessionId, helperRuntimeEpoch := rt.runtimeEpoch
              projectId := source.projectId
              target := params.target } })

/-- `plan_ask_to_internal`; its two callers differ in `allowParallel` only. -/
def planAskTo (host : Host) (ids : FreshIds) (token : String) (params : AskToInput)
    (allowParallel : Bool) (rt : CoreRuntime) : CoreAnswer AskToPlanOutcome :=
  match rt.authenticate token with
  | none => (.error .capabilityDenied, rt)
  | some principal =>
    match principal.role with
    | .playbookEvaluator _ | .steward _ => (.error .capabilityDenied, rt)
    | .interactive | .improver | .helper _ =>
      match params.refusal host with
      | some error => (.error error, rt)
      | none =>
        match scanRequests rt params.idempotencyKey allowParallel
            (rt.requestsOf principal.sessionId) with
        | .error error => (.error error, rt)
        | .ok (some requestId) => (.ok (.existing requestId), rt)
        | .ok none =>
          -- the earlier requests are forgotten before the source is looked up
          let rt := if allowParallel then rt else forgetRequests rt principal.sessionId
          match rt.store.sessions.find? fun session =>
              session.id == principal.sessionId && session.kind == .agent
                && session.lifecycleState == "running"
                && session.runtimeEpoch == principal.runtimeEpoch with
          | none => (.error .capabilityDenied, rt)
          | some source =>
            match params.conversationId with
            | some conversationId => planAskToFollowUp host ids source principal.runtimeEpoch
                conversationId params rt
            | none => planFreshHelper host ids source principal.runtimeEpoch params rt

def failAskToLaunch (requestId : String) (rt : CoreRuntime) : CoreRuntime :=
  match rt.request? requestId with
  | none => rt
  | some request =>
    if request.status == .pending then
      { rt.updateRequest requestId (fun request => { request with status := .helperUnavailable })
        with conversations := rt.conversations.erase request.conversationId }
    else rt

def HelperLaunch.session (plan : HelperLaunch) (runtimeEpoch : Nat) : SessionRecord :=
  { id := plan.sessionId, projectId := plan.projectId, kind := .agent
    process :=
      { cwd := plan.cwd, agentId := some plan.agentId, templateRef := some askToHelperTemplate }
    lifecycleState := "running", runtimeEpoch := runtimeEpoch, archivedAt := none
    askToSourceSessionId := some plan.sourceSessionId, askToContinuation := some plan.continuation
    resumeRef := plan.resumeRef, resumeLaunchGuard := plan.guard, resumeFailure := none }

/-- The helper's part of `complete_agent_launch`: with `starts` the other checks pass and
    the terminal is spawned. -/
def completeAgentLaunch (plan : HelperLaunch) (starts persisted : Bool) (rt : CoreRuntime) :
    CoreAnswer Unit :=
  if !rt.store.projects.any (·.id == plan.projectId) then (.error .notFound, rt)
  else if !starts then (.error .refused, rt)
  else
    match insertSession (plan.session rt.runtimeEpoch) persisted rt.store with
    | (.error error, store) =>
      (.error (.store error),
        { rt with store := store, capabilities := rt.capabilities.erase plan.sessionId })
    | (.ok _, store) =>
      (.ok (), { rt with
        store := store
        capabilities := rt.capabilities.insert plan.sessionId
          { token := plan.mcpToken, sessionId := plan.sessionId, runtimeEpoch := rt.runtimeEpoch
            role := .helper (some plan.requestId) } })

def completeAskToLaunch (requestId : String) (plan : HelperLaunch) (starts persisted : Bool)
    (rt : CoreRuntime) : CoreAnswer Unit :=
  match (rt.request? requestId).filter fun request =>
      request.status == .pending && request.helperSessionId == plan.sessionId
        && (rt.requestsOf request.sourceSessionId).contains request.requestId with
  | none => (.error .askToRequestUnavailable, rt)
  | some request =>
    if !rt.store.sessions.any fun session =>
        session.id == request.sourceSessionId && session.lifecycleState == "running" then
      (.error .askToRequestGone, rt)
    else completeAgentLaunch plan starts persisted rt

/-- A failed launch is failed in the request table too. -/
def runLaunch (plan : HelperLaunch) (starts persisted : Bool) (rt : CoreRuntime) :
    CoreAnswer Unit :=
  match completeAskToLaunch plan.requestId plan starts persisted rt with
  | (.ok (), rt) => (.ok (), rt)
  | (.error error, rt) => (.error error, failAskToLaunch plan.requestId rt)

def tryDeliverAskToReply (submits : Bool) (requestId : String) (rt : CoreRuntime) : CoreRuntime :=
  match rt.request? requestId with
  | none => rt
  | some request =>
    if !request.status.isCompleted || request.replyDelivered
        || (rt.completions.lookup request.sourceSessionId).isSome
        || !rt.store.sessions.any (fun session =>
          session.id == request.sourceSessionId
            && session.runtimeEpoch == request.sourceRuntimeEpoch
            && session.lifecycleState == "running")
        || !submits then rt
    else { rt with
      completions := rt.completions.insert request.sourceSessionId (.reply requestId) }

def tryDeliverAskToReplyForSource (submits : Bool) (sourceSessionId : String)
    (rt : CoreRuntime) : CoreRuntime :=
  let ready := (rt.requestsOf sourceSessionId).find? fun requestId =>
    (rt.request? requestId).any fun request =>
      request.status.isCompleted && !request.replyDelivered
  match ready with
  | none => rt
  | some requestId => tryDeliverAskToReply submits requestId rt

inductive ReplyReceipt where
  | submitting | alreadyCompleted

def replyToRequest (submits : Bool) (token requestId message : String) (rt : CoreRuntime) :
    CoreAnswer ReplyReceipt :=
  match rt.authenticate token with
  | none => (.error .capabilityDenied, rt)
  | some principal =>
    if principal.role != .helper (some requestId) then (.error .capabilityDenied, rt)
    else if messageIsInvalid message then (.error (.invalidParams "message"), rt)
    else
      match (rt.request? requestId).filter (·.helperSessionId == principal.sessionId) with
      | none => (.error .askToRequestUnavailable, rt)
      | some request =>
        match request.status with
        | .pending =>
          (.ok .submitting, tryDeliverAskToReply submits requestId
            (rt.updateRequest requestId fun request =>
              { request with status := .completed message }))
        | .completed existing =>
          if existing == message then
            (.ok .alreadyCompleted, tryDeliverAskToReply submits requestId rt)
          else (.error .askToAlreadyReplied, rt)
        | .requestGone => (.error .askToRequestGone, rt)
        | .helperUnavailable => (.error .askToRequestUnavailable, rt)

def replaceWorkflowExecution (expected replacement : WorkflowExecution) (persisted : Bool)
    (rt : CoreRuntime) : CoreAnswer Unit :=
  if !replacement.isValid || !replacement.sameWorkflow expected then
    (.error (.store .constraintViolation), rt)
  else
    match rt.workflowExecutions.find? (·.id == expected.id) with
    | none => (.error (.store .notFound), rt)
    | some current =>
      if current != expected then (.error (.store .revisionConflict), rt)
      else if replacement == expected then (.ok (), rt)
      else if !persisted then (.error (.store .io), rt)
      else (.ok (), { rt with
        store := { rt.store with revision := rt.store.revision + 1 }
        workflowExecutions := updateFirst (·.id == expected.id)
          (fun _ => replacement) rt.workflowExecutions })

def awaitsReply (requestId : String) (execution : WorkflowExecution) : Bool :=
  (execution.phase == .awaitingHelper && execution.currentRequestId == some requestId)
    || ((execution.phase == .awaitingCoordinator || execution.phase == .awaitingHelper)
      && execution.reviewRequests.any (·.requestId == requestId))

/-- The reply reached its coordinator: a review is ticked off, and the last one or a
    discussion ends the wait. -/
def afterReply (requestId : String) (now : Nat) (execution : WorkflowExecution) :
    WorkflowExecution :=
  if execution.reviewRequests.any (·.requestId == requestId) then
    let ticked := updateFirst (·.requestId == requestId)
      (fun request => { request with replyDelivered := true }) execution.reviewRequests
    let phase :=
      if ticked.length == execution.reviewGroup.length
          && ticked.all (·.replyDelivered) then .awaitingStepCompletion
      else execution.phase
    { execution with reviewRequests := ticked, phase := phase, updatedAt := now }
  else
    { execution with
      phase := .awaitingStepCompletion, currentRequestId := none, updatedAt := now }

def completeWorkflowHelperReplyDelivery (requestId : String) (now : Nat) (persisted : Bool)
    (rt : CoreRuntime) : CoreAnswer Bool :=
  match rt.workflowExecutions.find? (awaitsReply requestId) with
  | none => (.ok false, rt)
  | some expected =>
    match replaceWorkflowExecution expected (afterReply requestId now expected) persisted rt with
    | (.ok (), rt) => (.ok true, rt)
    | (.error error, rt) => (.error error, rt)

def bindHelperRequest (sessionId : String) (runtimeEpoch : Nat) (requestId : Option String)
    (rt : CoreRuntime) : Option CoreRuntime :=
  match rt.capabilities.lookup sessionId with
  | none => none
  | some capability =>
    match capability.role with
    | .helper _ =>
      if capability.runtimeEpoch == runtimeEpoch then
        some { rt with
          capabilities := rt.capabilities.insert sessionId
            { capability with role := .helper requestId } }
      else none
    | _ => none

def setCurrentRequest (helperSessionId conversationId : String) (requestId : Option String)
    (persisted : Bool) (rt : CoreRuntime) : CoreAnswer Unit :=
  match setAskToCurrentRequest helperSessionId conversationId requestId persisted rt.store with
  | (.ok _, store) => (.ok (), { rt with store := store })
  | (.error error, store) => (.error (.store error), { rt with store := store })

structure Writes where
  (mark rollback workflow : Bool)

/-- The descriptor is marked first, and unmarked when the capability cannot follow. -/
def markHelper (writes : Writes) (helperSessionId conversationId : String) (runtimeEpoch : Nat)
    (next previous : Option String) (rt : CoreRuntime) : CoreAnswer Unit :=
  match setCurrentRequest helperSessionId conversationId next writes.mark rt with
  | (.error error, rt) => (.error error, rt)
  | (.ok (), rt) =>
    match bindHelperRequest helperSessionId runtimeEpoch next rt with
    | some rt => (.ok (), rt)
    | none => (.error .conversationUnavailable,
        (setCurrentRequest helperSessionId conversationId previous writes.rollback rt).2)

def completeFollowUp (writes : Writes) (target : String) (runtimeEpoch : Nat)
    (request : AskToRequest) (rt : CoreRuntime) : CoreAnswer Bool :=
  if request.helperSessionId != target then (.error .conversationUnavailable, rt)
  else
    match (rt.store.session? request.helperSessionId).filter (·.runtimeEpoch == runtimeEpoch) with
    | none => (.error .conversationUnavailable, rt)
    | some helper =>
      match markHelper writes request.helperSessionId request.conversationId helper.runtimeEpoch
          (some request.requestId) none rt with
      | (.error error, rt) => (.error error, rt)
      | (.ok (), rt) => (.ok true, { rt with completions := rt.completions.erase target })

def completeReply (writes : Writes) (submits : Bool) (now : Nat) (target : String)
    (runtimeEpoch : Nat) (request : AskToRequest) (rt : CoreRuntime) : CoreAnswer Bool :=
  if request.sourceSessionId != target || request.sourceRuntimeEpoch != runtimeEpoch then
    (.error .conversationUnavailable, rt)
  else
    match rt.store.session? request.helperSessionId with
    | none => (.error .conversationUnavailable, rt)
    | some helper =>
      match markHelper writes request.helperSessionId request.conversationId helper.runtimeEpoch
          none (some request.requestId) rt with
      | (.error error, rt) => (.error error, rt)
      | (.ok (), rt) =>
        let delivered := rt.updateRequest request.requestId fun request =>
          { request with replyDelivered := true }
        match completeWorkflowHelperReplyDelivery request.requestId now writes.workflow
            delivered with
        | (.error error, rt) => (.error error, rt)
        | (.ok _, rt) => (.ok true, tryDeliverAskToReplyForSource submits request.sourceSessionId
            { rt with completions := rt.completions.erase target })

/-- The terminal has confirmed a generated input, the awaited one if `attributed`. -/
def completeAskToGeneratedInput (writes : Writes) (attributed submits : Bool) (now : Nat)
    (target : String) (runtimeEpoch : Nat) (rt : CoreRuntime) : CoreAnswer Bool :=
  match rt.completions.lookup target with
  | none => (.ok false, rt)
  | some completion =>
    if !attributed then (.ok false, rt)
    else
      match rt.request? completion.requestId with
      | none => (.error .askToRequestUnavailable, rt)
      | some request =>
        match completion with
        | .followUp _ => completeFollowUp writes target runtimeEpoch request rt
        | .reply _ => completeReply writes submits now target runtimeEpoch request rt

/-- The requests of a retired source: gone for a live helper, forgotten otherwise. -/
def loseSource (store : CurrentState) (requestIds : List String) (request : AskToRequest) :
    Option AskToRequest :=
  if requestIds.contains request.requestId then
    if store.sessions.any fun session =>
        session.id == request.helperSessionId && CoreRuntime.liveHelper session then
      some { request with status := .requestGone }
    else none
  else some request

def loseHelper (sessionId : String) (request : AskToRequest) : Option AskToRequest :=
  if request.helperSessionId != sessionId then some request
  else
    match request.status with
    | .pending => some { request with status := .helperUnavailable }
    | .requestGone => none
    | .completed _ | .helperUnavailable => some request

def retireAskToSession (sessionId : String) (rt : CoreRuntime) : CoreRuntime :=
  let related := (rt.requests.filter fun request =>
    request.sourceSessionId == sessionId || request.helperSessionId == sessionId).map (·.requestId)
  { rt with
    capabilities := rt.capabilities.erase sessionId
    completions := retain (fun target completion =>
      target != sessionId && !related.contains completion.requestId) rt.completions
    conversations := retain (fun _ conversation =>
      conversation.sourceSessionId != sessionId && conversation.helperSessionId != sessionId)
      rt.conversations
    bySource := rt.bySource.erase sessionId
    requests := (rt.requests.filterMap (loseSource rt.store (rt.requestsOf sessionId))).filterMap
      (loseHelper sessionId) }

section Cases
variable {host : Host} {ids : FreshIds} {params : AskToInput} {rt : CoreRuntime}

/-- A plan's errors are neither about a workflow's state nor from the store. -/
def CoreError.ofPlan : CoreError → Bool
  | .workflowExecutionState | .store _ => false
  | _ => true

theorem scanRequests_error (stopped : scanRequests rt key parallel requestIds = .error error) :
    error.ofPlan := by
  induction requestIds with
  | nil => cases stopped
  | cons currentId rest ih =>
    rw [scanRequests] at stopped
    split at stopped
    · cases stopped
      rfl
    · split at stopped
      · cases stopped
      split at stopped
      · cases stopped
        rfl
      · exact ih stopped

theorem refusal_error (refused : params.refusal host = some error) : error.ofPlan := by
  unfold AskToInput.refusal at refused
  split at refused
  · cases refused
    rfl
  · split at refused
    · cases refused
      rfl
    · split at refused <;> cases refused
      rfl

def planBase (allowParallel : Bool) (sessionId : String) (rt : CoreRuntime) : CoreRuntime :=
  if allowParallel then rt else forgetRequests rt sessionId

theorem planAskTo_cases (ran : planAskTo host ids token params parallel rt = ans) :
    (∃ error, error.ofPlan ∧ ans = (.error error, rt)) ∨
    (∃ sid reqId, scanRequests rt params.idempotencyKey parallel
        (rt.requestsOf sid) = .ok (some reqId) ∧
      ans = (.ok (.existing reqId), rt)) ∨
    ∃ sid, scanRequests rt params.idempotencyKey parallel (rt.requestsOf sid) = .ok none ∧
      (ans = (.error .capabilityDenied, planBase parallel sid rt) ∨
        ∃ source ∈ (planBase parallel sid rt).store.sessions, source.kind = .agent ∧
          ∃ epoch, (∃ convId, planAskToFollowUp host ids source epoch convId params
              (planBase parallel sid rt) = ans) ∨
            planFreshHelper host ids source epoch params (planBase parallel sid rt) = ans) := by
  unfold planAskTo at ran
  split at ran
  · exact .inl ⟨_,rfl,ran.symm⟩
  next principal _ =>
  split at ran
  iterate 2 exact .inl ⟨_,rfl,ran.symm⟩
  all_goals
    split at ran
    · next rejected => exact .inl ⟨_,refusal_error rejected,ran.symm⟩
    split at ran
    · next stopped => exact .inl ⟨_,scanRequests_error stopped,ran.symm⟩
    · next again => exact .inr (.inl ⟨principal.sessionId,_,again,ran.symm⟩)
    · next passed =>
      refine .inr (.inr ⟨principal.sessionId,passed,?_⟩)
      dsimp only at ran
      split at ran
      · exact .inl ran.symm
      next source found =>
      have hit := List.find?_some found
      simp only [Bool.and_eq_true, beq_iff_eq] at hit
      refine .inr ⟨source,List.mem_of_find?_eq_some found,hit.1.1.2,principal.runtimeEpoch,?_⟩
      split at ran
      · exact .inl ⟨_,ran⟩
      · exact .inr ran

end Cases

end TermloopAskTo
