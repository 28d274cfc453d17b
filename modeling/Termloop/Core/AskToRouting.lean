import Termloop.Lib.Runs
import Termloop.Core.AskTo

/-!
Durable Ask-To routing over whole runs. The continuation in a helper's descriptor is
written by its launch, moved by an acknowledged follow-up and cleared by an
acknowledged reply; the next start of the daemon accepts the descriptors only when
conversations are distinct, every helper has its source, and no source has two
requests open.
-/
namespace TermloopRouting
open List
open TermloopRecordLists TermloopOutcome TermloopRuns TermloopStore TermloopWorkflow TermloopAskTo
variable {source reqId : Option String} {pid convId helperId : String}
  {helper : SessionRecord} {host : Host} {ids : FreshIds} {epoch : Nat} {params : AskToInput}
  {ans : CoreAnswer AskToPlanOutcome}

structure Daemon where
  core : CoreRuntime
  launches : List HelperLaunch

def Daemon.sessions (daemon : Daemon) : List SessionRecord := daemon.core.store.sessions

inductive RoutingAction where
  | plan (host : Host) (ids : FreshIds) (token : String) (params : AskToInput)
      (allowParallel : Bool)
  | launch (plan : HelperLaunch) (starts persisted : Bool)
  | reply (submits : Bool) (token requestId message : String)
  | acknowledge (writes : Writes) (attributed submits : Bool) (now : Nat) (target : String)
      (runtimeEpoch : Nat)
  | retire (sessionId : String)

def launchesAfter (launches : List HelperLaunch) : Except CoreError AskToPlanOutcome →
    List HelperLaunch
  | .ok (.launch plan) => launches ++ [plan]
  | _ => launches

def perform (daemon : Daemon) : RoutingAction → Daemon
  | .plan host ids token params allowParallel =>
    let answer := planAskTo host ids token params allowParallel daemon.core
    { core := answer.2, launches := launchesAfter daemon.launches answer.1 }
  | .launch plan starts persisted =>
    { core := (runLaunch plan starts persisted daemon.core).2
      launches := daemon.launches.erase plan }
  | .reply submits token requestId message =>
    { daemon with core := (replyToRequest submits token requestId message daemon.core).2 }
  | .acknowledge writes attributed submits now target runtimeEpoch =>
    { daemon with
      core := (completeAskToGeneratedInput writes attributed submits now target runtimeEpoch
        daemon.core).2 }
  | .retire sessionId => { daemon with core := retireAskToSession sessionId daemon.core }

structure NewIds (daemon : Daemon) (ids : FreshIds) : Prop where
  conversation : validId ids.conversationId = true
  request : validId ids.requestId = true
  unused : ∀ session ∈ daemon.sessions, ∀ continuation,
    session.askToContinuation = some continuation →
      continuation.conversationId ≠ ids.conversationId
  unplanned : ∀ plan ∈ daemon.launches, plan.continuation.conversationId ≠ ids.conversationId

def Possible (daemon : Daemon) : RoutingAction → Prop
  | .plan _ ids _ _ _ => NewIds daemon ids
  | .launch plan _ _ => plan ∈ daemon.launches
  | .reply _ _ _ _ | .acknowledge _ _ _ _ _ _ | .retire _ => True

def Step (daemon : Daemon) (action : RoutingAction) (after : Daemon) : Prop :=
  Possible daemon action ∧ perform daemon action = after

/-- The continuation part of `sessions_are_invalid`. -/
def askToContinuationsAreInvalid (sessions : List SessionRecord) : Bool :=
  anyWithLater (invalidAskToContinuation sessions) sessions

def HasOpenRequest (session : SessionRecord) : Prop :=
  ∃ continuation, session.askToContinuation = some continuation ∧
    continuation.currentRequestId ≠ none

def OnlyConversation (sessions : List SessionRecord) (source : Option String)
    (conversationId : String) : Prop :=
  ∀ session ∈ sessions, session.askToSourceSessionId = source → HasOpenRequest session →
    ∃ continuation, session.askToContinuation = some continuation ∧
      continuation.conversationId = conversationId

/-- The helper is left with an open request: a follow-up, or a reply whose mark is put back
    since the capability is lost. -/
def opensRequest (core : CoreRuntime) (request : AskToRequest) (helper : SessionRecord) :
    GeneratedInputCompletion → Prop
  | .followUp _ => True
  | .reply _ =>
    bindHelperRequest request.helperSessionId helper.runtimeEpoch none core = none

/-- A helper is launched or marked with a request only while no other helper of its source
    has one open. -/
def Requires (daemon : Daemon) : RoutingAction → Prop
  | .launch plan _ _ => ∀ session ∈ daemon.sessions,
      session.askToSourceSessionId = some plan.sourceSessionId → ¬ HasOpenRequest session
  | .acknowledge _ _ _ _ target _ => ∀ completion request helper,
      daemon.core.completions.lookup target = some completion →
      daemon.core.request? completion.requestId = some request →
      daemon.core.store.session? request.helperSessionId = some helper →
      opensRequest daemon.core request helper completion →
        OnlyConversation daemon.sessions helper.askToSourceSessionId request.conversationId
  | .plan _ _ _ _ _ | .reply _ _ _ _ | .retire _ => True

/-- The requirement only matters when the store is written. -/
def Safe (daemon : Daemon) (action : RoutingAction) : Prop :=
  (perform daemon action).core.store ≠ daemon.core.store → Requires daemon action

def HasSource (sessions : List SessionRecord) (sourceSessionId : Option String)
    (projectId : String) : Prop :=
  ∃ source ∈ sessions, sourceSessionId = some source.id ∧ source.kind = .agent ∧
    source.projectId = projectId

def Sound (sessions : List SessionRecord) (session : SessionRecord) : Prop :=
  ∀ continuation, session.askToContinuation = some continuation →
    continuation.isWellFormed = true ∧
      HasSource sessions session.askToSourceSessionId session.projectId

def Apart (a b : SessionRecord) : Prop :=
  (∀ c d, a.askToContinuation = some c → b.askToContinuation = some d →
      d.conversationId ≠ c.conversationId) ∧
    (HasOpenRequest a → b.askToSourceSessionId = a.askToSourceSessionId → ¬ HasOpenRequest b)

structure Lawful (sessions : List SessionRecord) : Prop where
  sound : ∀ session ∈ sessions, Sound sessions session
  apart : sessions.Pairwise Apart

theorem invalidAskToContinuation_eq_false (sessions : List SessionRecord)
    (sess : SessionRecord) (later : List SessionRecord) :
    invalidAskToContinuation sessions sess later = false ↔
      Sound sessions sess ∧ ∀ other ∈ later, Apart sess other := by
  cases continuation : sess.askToContinuation with
  | none => simp [invalidAskToContinuation, Sound, Apart, HasOpenRequest, continuation]
  | some cur =>
    have source : (sess.askToSourceSessionId.isNone = false ∧
        (sessions.any fun source => sess.askToSourceSessionId == some source.id
          && source.kind == .agent && source.projectId == sess.projectId)) ↔
        HasSource sessions sess.askToSourceSessionId sess.projectId := by
      simp only [any_eq_true, Bool.and_eq_true, beq_iff_eq, HasSource, and_assoc]
      constructor
      · exact (·.2)
      · rintro ⟨hit,present,named,rest⟩
        exact ⟨by rw [named]; rfl,hit,present,named,rest⟩
    have conversations : (later.any fun candidate => candidate.askToContinuation.any
        (·.conversationId == cur.conversationId)) = false ↔
        ∀ other ∈ later, ∀ d, other.askToContinuation = some d →
          d.conversationId ≠ cur.conversationId := by
      simp [any_eq_false, Option.any_eq_true]
    have opened : HasOpenRequest sess ↔ cur.currentRequestId.isSome := by
      simp [HasOpenRequest, continuation, Option.isSome_iff_ne_none]
    have single : (cur.currentRequestId.isSome && later.any fun candidate =>
        candidate.askToSourceSessionId == sess.askToSourceSessionId
          && candidate.askToContinuation.any (·.currentRequestId.isSome)) = false ↔
        ∀ other ∈ later, HasOpenRequest sess →
          other.askToSourceSessionId = sess.askToSourceSessionId → ¬ HasOpenRequest other := by
      rw [opened]
      cases cur.currentRequestId with
      | none => simp
      | some req => simp [any_eq_false, HasOpenRequest, Option.any_eq_true, Option.isSome_iff_ne_none]
    simp only [invalidAskToContinuation, continuation, Option.any_some, Bool.or_eq_false_iff,
      Bool.not_eq_false', conversations, single, and_assoc]
    constructor
    · rintro ⟨formed,named,hit,nodup,alone⟩
      refine ⟨fun c same => ?_,fun other here => ⟨fun c d mine theirs => ?_,alone other here⟩⟩
      · cases continuation.symm.trans same
        exact ⟨formed,source.mp ⟨named,hit⟩⟩
      · cases continuation.symm.trans mine
        exact nodup other here d theirs
    · rintro ⟨sound,apart⟩
      obtain ⟨formed,hasSource⟩ := sound cur continuation
      obtain ⟨named,hit⟩ := source.mpr hasSource
      exact ⟨formed,named,hit,fun other here d theirs =>
        (apart other here).1 cur d continuation theirs,fun other here => (apart other here).2⟩

theorem askToContinuationsAreInvalid_eq_false :
    askToContinuationsAreInvalid sessions = false ↔ Lawful sessions := by
  have checks := anyWithLater_eq_false (invalidAskToContinuation_eq_false sessions) sessions
  constructor
  · intro fine
    obtain ⟨sound,apart⟩ := checks.mp fine
    exact ⟨sound,apart⟩
  · intro lawful
    exact checks.mpr ⟨lawful.sound,lawful.apart⟩

theorem lawful_of_sessions (fine : sessionsAreInvalid sessions = false) : Lawful sessions := by
  apply (askToContinuationsAreInvalid_eq_false).mp
  apply anyWithLater_eq_false_of_imp _ fine
  intro sess later failed
  rw [failed, Bool.or_true]

section Writes
variable {sessions : List SessionRecord}

theorem hasSource_mono (kept : ∀ sess ∈ sessions, sess ∈ more)
    (has : HasSource sessions source pid) :
    HasSource more source pid := by
  obtain ⟨hit,here,rest⟩ := has
  exact ⟨hit,kept hit here,rest⟩

def marked (conversationId : String) (requestId : Option String) (session : SessionRecord) :
    SessionRecord :=
  { session with
    askToContinuation :=
      some { conversationId := conversationId, currentRequestId := requestId } }

theorem marked_open : HasOpenRequest (marked convId reqId sess) ↔ reqId ≠ none := by
  simp [HasOpenRequest, marked]

theorem hasSource_marked (has : HasSource sessions source pid) :
    HasSource (updateFirst wanted (marked convId reqId) sessions) source pid := by
  obtain ⟨found,here,named,agent,project⟩ := has
  rcases mem_updateFirst_of_mem here with kept | hit
  · exact ⟨found,kept,named,agent,project⟩
  · exact ⟨marked convId reqId found,changed_mem_updateFirst hit,named,agent,project⟩

theorem marked_lawful (lawful : Lawful sessions)
    (hit : (sessions.find? (·.id == helperId)) = some helper)
    (holds : helper.askToContinuation = some cur) (formed : AskToContinuation.isWellFormed
      { conversationId := cur.conversationId, currentRequestId := reqId })
    (only : reqId ≠ none →
      OnlyConversation sessions helper.askToSourceSessionId cur.conversationId) :
    Lawful (updateFirst (·.id == helperId) (marked cur.conversationId reqId) sessions) := by
  -- under the source of the helper no other conversation is open once a mark is set
  have alone : ∀ sess ∈ sessions, reqId ≠ none → HasOpenRequest sess →
      sess.askToSourceSessionId = helper.askToSourceSessionId →
      ∃ c, sess.askToContinuation = some c ∧ c.conversationId = cur.conversationId :=
    fun sess here marks opened same => only marks sess here same opened
  constructor
  · intro sess here
    rcases mem_updateFirst here with old | ⟨own,lookup,new⟩
    · intro continuation its
      obtain ⟨fine,source⟩ := lawful.sound sess old continuation its
      exact ⟨fine,hasSource_marked source⟩
    · subst new
      rw [hit] at lookup
      cases lookup
      intro continuation its
      cases its
      have source := (lawful.sound helper (mem_of_find?_eq_some hit) cur holds).2
      exact ⟨formed,hasSource_marked source⟩
  · apply pairwise_updateFirst lawful.apart
    · intro own other lookup here apart
      rw [hit] at lookup
      cases lookup
      constructor
      · intro c d theirs mine
        cases mine
        exact apart.1 c cur theirs holds
      · intro opened same marks
        obtain ⟨c,its,conversation⟩ := alone other here (marked_open.mp marks) opened same.symm
        exact apart.1 c cur its holds conversation.symm
    · intro own other lookup here apart
      rw [hit] at lookup
      cases lookup
      constructor
      · intro c d mine theirs
        cases mine
        exact apart.1 cur d holds theirs
      · intro marks same opened
        obtain ⟨c,its,conversation⟩ := alone other here (marked_open.mp marks) opened same
        exact apart.1 cur c holds its conversation

theorem append_lawful (lawful : Lawful sessions) (sound : Sound sessions helper)
    (fresh : ∀ sess ∈ sessions, ∀ c d, sess.askToContinuation = some c →
      helper.askToContinuation = some d → d.conversationId ≠ c.conversationId)
    (idle : ∀ sess ∈ sessions, sess.askToSourceSessionId = helper.askToSourceSessionId →
      ¬ HasOpenRequest sess) :
    Lawful (sessions ++ [helper]) := by
  have grows : ∀ sess ∈ sessions, sess ∈ sessions ++ [helper] :=
    fun sess here => mem_append_left _ here
  constructor
  · intro sess here continuation its
    rcases mem_append.mp here with old | new
    · obtain ⟨fine,source⟩ := lawful.sound sess old continuation its
      exact ⟨fine,hasSource_mono grows source⟩
    · rw [mem_singleton.mp new] at its ⊢
      obtain ⟨fine,source⟩ := sound continuation its
      exact ⟨fine,hasSource_mono grows source⟩
  · refine pairwise_append.mpr ⟨lawful.apart,pairwise_singleton _ _,?_⟩
    intro sess here other new
    rw [mem_singleton.mp new]
    exact ⟨fresh sess here, fun opened same _ => idle sess here same.symm opened⟩

end Writes

section Effects
variable {rt : CoreRuntime} {plan : HelperLaunch} {starts saves submits attributed : Bool}
  {now : Nat} {target : String} {writes : Writes} {req : AskToRequest}

theorem planFreshHelper_effect {source : SessionRecord}
    (ran : planFreshHelper host ids source epoch params rt = ans) :
    ans.2.store = rt.store ∧ ∀ plan, ans.1 = .ok (.launch plan) →
      ∃ guard, plan = helperLaunch ids source params.target guard := by
  unfold planFreshHelper at ran
  simp only at ran
  split at ran
  · subst ran
    exact ⟨rfl,nofun⟩
  split at ran
  · subst ran
    exact ⟨rfl,nofun⟩
  split at ran
  · subst ran
    exact ⟨rfl,nofun⟩
  · rename_i guard inherited
    subst ran
    refine ⟨rfl,fun plan same => ⟨guard,?_⟩⟩
    cases same
    rfl

theorem planAskTo_effect (ran : planAskTo host ids token params parallel rt = ans) :
    ans.2.store = rt.store ∧ ∀ plan, ans.1 = .ok (.launch plan) →
      ∃ source ∈ rt.store.sessions, source.kind = .agent ∧
        ∃ guard, plan = helperLaunch ids source params.target guard := by
  have kept : ∀ sid, (planBase parallel sid rt).store = rt.store := by
    intro sid
    unfold planBase
    split <;> rfl
  rcases planAskTo_cases ran with ⟨error,-,rfl⟩ | ⟨-,reqId,-,rfl⟩ | ⟨sid,-,walked⟩
  · exact ⟨rfl,nofun⟩
  · exact ⟨rfl,nofun⟩
  · rcases walked with rfl | ⟨source,here,agent,_,⟨_,asks⟩ | launching⟩
    · exact ⟨kept sid,nofun⟩
    · unfold planAskToFollowUp at asks
      repeat' split at asks
      all_goals
        subst asks
        exact ⟨kept sid,nofun⟩
    · obtain ⟨same,launches⟩ := planFreshHelper_effect launching
      rw [kept] at here
      exact ⟨same.trans (kept sid),fun plan launched =>
        ⟨source,here,agent,launches plan launched⟩⟩

theorem failAskToLaunch_store {reqId : String} : (failAskToLaunch reqId rt).store = rt.store := by
  unfold failAskToLaunch
  split
  · rfl
  · split <;> rfl

theorem completeAgentLaunch_store : (completeAgentLaunch plan starts saves rt).2.store = rt.store ∨
      (completeAgentLaunch plan starts saves rt).2.store.sessions =
        rt.store.sessions ++ [plan.session rt.runtimeEpoch] := by
  have inserted : (insertSession (plan.session rt.runtimeEpoch) saves rt.store).2 = rt.store ∨
      (insertSession (plan.session rt.runtimeEpoch) saves rt.store).2.sessions =
        rt.store.sessions ++ [plan.session rt.runtimeEpoch] := by
    unfold insertSession
    split
    · exact .inl rfl
    cases saves with
    | false => exact .inl rfl
    | true => exact .inr rfl
  unfold completeAgentLaunch
  iterate 2 (split; · exact .inl rfl)
  split
  all_goals
    rename_i saved
    rw [saved] at inserted
    exact inserted

theorem runLaunch_store : (runLaunch plan starts saves rt).2.store = rt.store ∨
      (runLaunch plan starts saves rt).2.store.sessions =
        rt.store.sessions ++ [plan.session rt.runtimeEpoch] := by
  have completed : (completeAskToLaunch plan.requestId plan starts saves rt).2.store = rt.store ∨
      (completeAskToLaunch plan.requestId plan starts saves rt).2.store.sessions =
        rt.store.sessions ++ [plan.session rt.runtimeEpoch] := by
    unfold completeAskToLaunch
    iterate 2 (split; · exact .inl rfl)
    · exact completeAgentLaunch_store
  unfold runLaunch
  split
  · rename_i next done
    rw [done] at completed
    exact completed
  · rename_i error next failed
    rw [failed] at completed
    simp only [failAskToLaunch_store]
    exact completed

theorem tryDeliverAskToReply_store {reqId : String} :
    (tryDeliverAskToReply submits reqId rt).store = rt.store := by
  unfold tryDeliverAskToReply
  split
  · rfl
  · split <;> rfl

theorem tryDeliverForSource_store :
    (tryDeliverAskToReplyForSource submits sourceSessionId rt).store = rt.store := by
  unfold tryDeliverAskToReplyForSource
  simp only
  split
  · rfl
  · exact tryDeliverAskToReply_store

theorem replyToRequest_store {token reqId msg : String} :
    (replyToRequest submits token reqId msg rt).2.store = rt.store := by
  unfold replyToRequest
  repeat' split
  all_goals first
    | rfl
    | exact tryDeliverAskToReply_store

theorem replaceWorkflowExecution_sessions :
    (replaceWorkflowExecution want replacement saves rt).2.store.sessions = rt.store.sessions := by
  unfold replaceWorkflowExecution
  repeat' split
  all_goals rfl

theorem workflowReply_sessions {reqId : String} :
    (completeWorkflowHelperReplyDelivery reqId now saves rt).2.store.sessions =
      rt.store.sessions := by
  unfold completeWorkflowHelperReplyDelivery
  split
  · rfl
  rename_i want hit
  have same := @replaceWorkflowExecution_sessions rt saves want (afterReply reqId now want)
  split
  all_goals
    rename_i replaced
    rw [replaced] at same
    exact same

/-- One write of `set_ask_to_current_request`: nothing, or the helper's mark. -/
def Remarked (helperSessionId conversationId : String) (requestId : Option String)
    (before after : List SessionRecord) : Prop :=
  after = before ∨ ∃ helper current,
    (before.find? (·.id == helperSessionId)) = some helper ∧
    helper.askToContinuation = some current ∧ current.conversationId = conversationId ∧
    AskToContinuation.isWellFormed
      { conversationId := current.conversationId, currentRequestId := requestId } = true ∧
    after = updateFirst (·.id == helperSessionId)
      (marked current.conversationId requestId) before

theorem setAskToCurrentRequest_effect : Remarked helperId convId reqId st.sessions
      (setAskToCurrentRequest helperId convId reqId saves st).2.sessions := by
  unfold setAskToCurrentRequest
  split
  · exact .inl rfl
  rename_i helper hit
  iterate 2 (split; · exact .inl rfl)
  rename_i cur holds
  obtain ⟨its,same⟩ := Option.filter_eq_some_iff.mp holds
  simp only
  split
  · exact .inl rfl
  rename_i formed
  rw [Bool.not_eq_true', Bool.not_eq_false] at formed
  split
  · exact .inl rfl
  cases saves with
  | false => exact .inl rfl
  | true => exact .inr ⟨helper,cur,hit,its,beq_iff_eq.mp same,formed,rfl⟩

theorem setCurrentRequest_effect : Remarked helperId convId reqId rt.store.sessions
        (setCurrentRequest helperId convId reqId saves rt).2.store.sessions ∧
      (setCurrentRequest helperId convId reqId saves rt).2.capabilities = rt.capabilities := by
  have marks := @setAskToCurrentRequest_effect reqId convId helperId saves rt.store
  unfold setCurrentRequest
  split
  all_goals
    rename_i saved
    rw [saved] at marks
    exact ⟨marks,rfl⟩

theorem bind_capabilities (same : other.capabilities = rt.capabilities)
    (failed : bindHelperRequest sid epoch reqId other = none) :
    bindHelperRequest sid epoch reqId rt = none := by
  unfold bindHelperRequest at failed ⊢
  rw [same] at failed
  revert failed
  repeat' split
  all_goals simp

/-- Marking a helper writes once, and a second time when the capability is lost. -/
def MarkedTwice (rt : CoreRuntime) (helperSessionId conversationId : String) (runtimeEpoch : Nat)
    (next previous : Option String) (after : List SessionRecord) : Prop :=
  ∃ middle, Remarked helperSessionId conversationId next rt.store.sessions middle ∧
    (after = middle ∨ bindHelperRequest helperSessionId runtimeEpoch next rt = none ∧
      Remarked helperSessionId conversationId previous middle after)

theorem markHelper_effect : MarkedTwice rt helperId convId epoch new previous
      (markHelper writes helperId convId epoch new previous rt).2.store.sessions := by
  obtain ⟨marks,same⟩ :=
    @setCurrentRequest_effect new convId helperId rt writes.mark
  unfold markHelper
  split
  · rename_i error marked failed
    rw [failed] at marks
    exact ⟨_,marks,.inl rfl⟩
  rename_i marked saved
  rw [saved] at marks same
  split
  · rename_i bound binds
    refine ⟨_,marks,.inl ?_⟩
    unfold bindHelperRequest at binds
    repeat' split at binds
    all_goals cases binds
    rfl
  · rename_i failed
    exact ⟨_,marks,.inr ⟨bind_capabilities same failed,setCurrentRequest_effect.1⟩⟩

theorem completeFollowUp_effect :
    (completeFollowUp writes target epoch req rt).2.store.sessions = rt.store.sessions ∨
      ∃ helper, rt.store.session? req.helperSessionId = some helper ∧
        MarkedTwice rt req.helperSessionId req.conversationId helper.runtimeEpoch
          (some req.requestId) none
          (completeFollowUp writes target epoch req rt).2.store.sessions := by
  unfold completeFollowUp
  iterate 2 (split; · exact .inl rfl)
  rename_i helper hit
  have lookup := (Option.filter_eq_some_iff.mp hit).1
  have marks := @markHelper_effect req.conversationId req.helperSessionId
    helper.runtimeEpoch rt writes (some req.requestId) none
  refine .inr ⟨helper,lookup,?_⟩
  split
  all_goals
    rename_i done
    rw [done] at marks
    exact marks

theorem completeReply_effect :
    (completeReply writes submits now target epoch req rt).2.store.sessions = rt.store.sessions ∨
      ∃ helper, rt.store.session? req.helperSessionId = some helper ∧
        MarkedTwice rt req.helperSessionId req.conversationId helper.runtimeEpoch none
          (some req.requestId)
          (completeReply writes submits now target epoch req rt).2.store.sessions := by
  unfold completeReply
  iterate 2 (split; · exact .inl rfl)
  rename_i helper hit
  have marks := @markHelper_effect req.conversationId req.helperSessionId
    helper.runtimeEpoch rt writes none (some req.requestId)
  refine .inr ⟨helper,hit,?_⟩
  split
  · rename_i error next failed
    rw [failed] at marks
    exact marks
  rename_i next done
  rw [done] at marks
  have same := @workflowReply_sessions (next.updateRequest req.requestId fun req =>
    { req with replyDelivered := true }) writes.workflow now req.requestId
  simp only
  split
  · rename_i error last failed
    rw [failed] at same
    rw [same]
    exact marks
  · rename_i delivered last finished
    rw [finished] at same
    simp only [tryDeliverForSource_store]
    rw [same]
    exact marks

theorem acknowledge_effect {after : List SessionRecord}
    (reached : (completeAskToGeneratedInput writes attributed submits now target epoch
      rt).2.store.sessions = after) :
    after = rt.store.sessions ∨
      ∃ completion req helper, rt.completions.lookup target = some completion ∧
        rt.request? completion.requestId = some req ∧
        rt.store.session? req.helperSessionId = some helper ∧
        match completion with
        | .followUp _ => MarkedTwice rt req.helperSessionId req.conversationId
            helper.runtimeEpoch (some req.requestId) none after
        | .reply _ => MarkedTwice rt req.helperSessionId req.conversationId
            helper.runtimeEpoch none (some req.requestId) after := by
  unfold completeAskToGeneratedInput at reached
  split at reached
  · exact .inl reached.symm
  rename_i completion waiting
  iterate 2 (split at reached; · exact .inl reached.symm)
  rename_i req known
  cases completion with
  | followUp reqId =>
    subst reached
    rcases completeFollowUp_effect with same | ⟨helper,hit,marks⟩
    · exact .inl same
    · exact .inr ⟨_,req,helper,waiting,known,hit,marks⟩
  | reply reqId =>
    subst reached
    rcases completeReply_effect with same | ⟨helper,hit,marks⟩
    · exact .inl same
    · exact .inr ⟨_,req,helper,waiting,known,hit,marks⟩

end Effects

section Marks
variable {pre after : List SessionRecord}

section
variable (marks : Remarked helperId convId reqId pre after)
include marks

theorem remarked_lawful (lawful : Lawful pre)
    (only : reqId ≠ none → ∀ helper, (pre.find? (·.id == helperId)) = some helper →
        OnlyConversation pre helper.askToSourceSessionId convId) : Lawful after := by
  rcases marks with same | ⟨helper,cur,hit,holds,named,formed,saved⟩
  · rw [same]
    exact lawful
  · rw [saved]
    apply marked_lawful lawful hit holds formed
    intro opens
    rw [named]
    exact only opens helper hit

theorem remarked_hasSource (has : HasSource pre source pid) : HasSource after source pid := by
  rcases marks with same | ⟨helper,cur,-,-,-,-,saved⟩
  · rw [same]
    exact has
  · rw [saved]
    exact hasSource_marked has

theorem remarked_conversations : ∀ sess ∈ after, ∀ c, sess.askToContinuation = some c →
      ∃ old ∈ pre, ∃ d, old.askToContinuation = some d ∧ d.conversationId = c.conversationId := by
  intro sess here c its
  rcases marks with same | ⟨helper,cur,hit,holds,-,-,saved⟩
  · rw [same] at here
    exact ⟨sess,here,c,its,rfl⟩
  · rw [saved] at here
    rcases mem_updateFirst here with old | ⟨own,lookup,new⟩
    · exact ⟨sess,old,c,its,rfl⟩
    · subst new
      cases its
      exact ⟨helper,mem_of_find?_eq_some hit,cur,holds,rfl⟩

end

theorem cleared_only (marks : Remarked helperId convId none pre after)
    (only : OnlyConversation pre source theirs) : OnlyConversation after source theirs := by
  intro sess here same opened
  rcases marks with alike | ⟨helper,cur,-,-,-,-,saved⟩
  · rw [alike] at here
    exact only sess here same opened
  · rw [saved] at here
    rcases mem_updateFirst here with old | ⟨own,-,new⟩
    · exact only sess old same opened
    · subst new
      exact absurd rfl (marked_open.mp opened)

theorem remarked_source (marks : Remarked helperId convId reqId pre after)
    (hit : (after.find? (·.id == helperId)) = some helper) :
    ∃ old, (pre.find? (·.id == helperId)) = some old ∧
      old.askToSourceSessionId = helper.askToSourceSessionId := by
  rcases marks with same | ⟨old,cur,lookup,-,-,-,saved⟩
  · rw [same] at hit
    exact ⟨helper,hit,rfl⟩
  · have keeps : ∀ sess, (marked cur.conversationId reqId sess).id = sess.id :=
      fun _ => rfl
    have updated := find?_updateFirst keeps helperId helperId pre
    rw [saved, updated, if_pos rfl, lookup] at hit
    cases hit
    exact ⟨old,lookup,rfl⟩

structure Planned (sessions : List SessionRecord) (plan : HelperLaunch) : Prop where
  formed : plan.continuation.isWellFormed = true
  source : HasSource sessions (some plan.sourceSessionId) plan.projectId
  unused : ∀ session ∈ sessions, ∀ continuation,
    session.askToContinuation = some continuation →
      continuation.conversationId ≠ plan.continuation.conversationId

structure Routed (daemon : Daemon) : Prop where
  lawful : Lawful daemon.sessions
  planned : ∀ plan ∈ daemon.launches, Planned daemon.sessions plan
  apart : daemon.launches.Pairwise fun a b =>
    b.continuation.conversationId ≠ a.continuation.conversationId

theorem planned_remarked (marks : Remarked helperId convId reqId pre after)
    (planned : Planned pre plan) : Planned after plan := by
  refine ⟨planned.formed,remarked_hasSource marks planned.source,?_⟩
  intro sess here c its
  obtain ⟨old,there,d,theirs,same⟩ := remarked_conversations marks sess here c its
  rw [← same]
  exact planned.unused old there d theirs

end Marks

section Keep
variable {daemon after : Daemon}

section
variable (inv : Routed daemon)
include inv

theorem routed_of_same (same : after.sessions = daemon.sessions)
    (fewer : after.launches.Sublist daemon.launches) : Routed after := by
  constructor
  · rw [same]
    exact inv.lawful
  · intro plan mem
    rw [same]
    exact inv.planned plan (fewer.subset mem)
  · exact inv.apart.sublist fewer

theorem plan_routed (new : NewIds daemon ids) :
    Routed (perform daemon (.plan host ids token params parallel)) := by
  obtain ⟨store,launches⟩ := planAskTo_effect
    (rfl : planAskTo host ids token params parallel daemon.core = _)
  have same : (perform daemon (.plan host ids token params parallel)).sessions =
      daemon.sessions := congrArg CurrentState.sessions store
  have kept : ∀ ans, launchesAfter daemon.launches ans = daemon.launches ∨
      ∃ plan, ans = .ok (.launch plan)
    | .ok (.launch plan) => .inr ⟨plan,rfl⟩
    | .ok (.existing _) | .ok (.followUp _) | .error _ => .inl rfl
  rcases kept _ with unchanged | ⟨plan,launched⟩
  · apply routed_of_same inv same
    change (launchesAfter _ _).Sublist _
    rw [unchanged]
  obtain ⟨source,present,agent,guard,made⟩ := launches plan launched
  have mem : (perform daemon (.plan host ids token params parallel)).launches =
      daemon.launches ++ [plan] := by
    change launchesAfter _ _ = _
    rw [launched]
    rfl
  have conversation : plan.continuation.conversationId = ids.conversationId := by rw [made]; rfl
  have planned : Planned daemon.sessions plan := by
    rw [made]
    refine ⟨?_,⟨source,present,rfl,agent,rfl⟩,new.unused⟩
    simp [helperLaunch, AskToContinuation.isWellFormed, new.conversation, new.request]
  constructor
  · rw [same]
    exact inv.lawful
  · intro other here
    rw [same]
    rw [mem] at here
    rcases mem_append.mp here with old | last
    · exact inv.planned other old
    · rw [mem_singleton.mp last]
      exact planned
  · rw [mem]
    refine pairwise_append.mpr ⟨inv.apart,pairwise_singleton _ _,?_⟩
    intro other old latest last
    rw [mem_singleton.mp last, conversation]
    exact (new.unplanned other old).symm

theorem launch_routed
    (mem : plan ∈ daemon.launches) (safe : Safe daemon (.launch plan starts saves)) :
    Routed (perform daemon (.launch plan starts saves)) := by
  have fewer : (perform daemon (.launch plan starts saves)).launches.Sublist
      daemon.launches := erase_sublist
  by_cases idle : (perform daemon (.launch plan starts saves)).core.store = daemon.core.store
  · exact routed_of_same inv (congrArg CurrentState.sessions idle) fewer
  have quiet := safe idle
  rcases @runLaunch_store daemon.core plan starts saves with same | grown
  · exact absurd same idle
  have planned := inv.planned plan mem
  have added : (perform daemon (.launch plan starts saves)).sessions =
      daemon.sessions ++ [plan.session daemon.core.runtimeEpoch] := grown
  have others : ∀ other ∈ daemon.launches.erase plan,
      other.continuation.conversationId ≠ plan.continuation.conversationId := by
    have symmetric : ∀ a b : HelperLaunch,
        b.continuation.conversationId ≠ a.continuation.conversationId →
        a.continuation.conversationId ≠ b.continuation.conversationId :=
      fun _ _ apart => apart.symm
    have front := ((perm_cons_erase mem).pairwise_iff (symmetric _ _)).mp inv.apart
    exact (pairwise_cons.mp front).1
  have grows : ∀ sess ∈ daemon.sessions,
      sess ∈ daemon.sessions ++ [plan.session daemon.core.runtimeEpoch] :=
    fun sess here => mem_append_left _ here
  constructor
  · rw [added]
    apply append_lawful inv.lawful
    · intro continuation its
      cases its
      exact ⟨planned.formed,planned.source⟩
    · intro sess here c d its mine
      cases mine
      exact (planned.unused sess here c its).symm
    · exact fun sess here same => quiet sess here same
  · intro other waiting
    rw [added]
    have pre := inv.planned other (fewer.subset waiting)
    refine ⟨pre.formed,hasSource_mono grows pre.source,?_⟩
    intro sess here c its
    rcases mem_append.mp here with old | last
    · exact pre.unused sess old c its
    · rw [mem_singleton.mp last] at its
      cases its
      exact (others other waiting).symm
  · exact inv.apart.sublist fewer

theorem markedTwice_routed (launches : after.launches = daemon.launches)
    (hit : daemon.core.store.session? helperId = some helper)
    (marks : MarkedTwice daemon.core helperId convId epoch new previous
      after.sessions) (one : new = none ∨ previous = none)
    (only : new ≠ none ∨ bindHelperRequest helperId epoch new daemon.core = none →
      OnlyConversation daemon.sessions helper.askToSourceSessionId convId) :
    Routed after := by
  obtain ⟨middle,first,last⟩ := marks
  have between : Lawful middle := by
    apply remarked_lawful first inv.lawful
    intro opens own lookup
    cases lookup.symm.trans hit
    exact only (.inl opens)
  have waiting : ∀ plan ∈ daemon.launches, Planned middle plan :=
    fun plan mem => planned_remarked first (inv.planned plan mem)
  rcases last with same | ⟨lost,second⟩
  · refine ⟨same ▸ between,fun plan mem => same ▸ waiting plan (launches ▸ mem),?_⟩
    exact launches ▸ inv.apart
  refine ⟨?_,fun plan mem => planned_remarked second (waiting plan (launches ▸ mem)),
    launches ▸ inv.apart⟩
  apply remarked_lawful second between
  intro opens own lookup
  -- the second write sets a request only when the first one cleared it
  have cleared : new = none := one.resolve_right opens
  subst cleared
  obtain ⟨old,pre,same⟩ := remarked_source first lookup
  cases pre.symm.trans hit
  rw [← same]
  exact cleared_only first (only (.inr lost))

theorem acknowledge_routed
    (safe : Safe daemon (.acknowledge writes attributed submits now target epoch)) :
    Routed (perform daemon (.acknowledge writes attributed submits now target epoch)) := by
  by_cases idle : (perform daemon (.acknowledge writes attributed submits now target
      epoch)).core.store = daemon.core.store
  · exact routed_of_same inv (congrArg CurrentState.sessions idle) (.refl _)
  · have required := safe idle
    rcases acknowledge_effect rfl with
      same | ⟨completion,req,helper,waiting,known,hit,marks⟩
    · exact routed_of_same inv same (.refl _)
    · have only := required completion req helper waiting known hit
      cases completion with
      | followUp reqId =>
        exact markedTwice_routed inv rfl hit marks (.inr rfl) fun _ => only trivial
      | reply reqId =>
        have allowed : (none : Option String) ≠ none ∨ bindHelperRequest req.helperSessionId
              helper.runtimeEpoch none daemon.core = none →
            OnlyConversation daemon.sessions helper.askToSourceSessionId req.conversationId := by
          rintro (impossible | lost)
          · exact absurd rfl impossible
          · exact only lost
        exact markedTwice_routed inv rfl hit marks (.inl rfl) allowed

end

theorem step_routed (inv : Routed daemon) (safe : Safe daemon action)
    (step : Step daemon action after) : Routed after := by
  obtain ⟨possible,reached⟩ := step
  subst reached
  cases action with
  | plan host ids token params parallel => exact plan_routed inv possible
  | launch plan starts saves => exact launch_routed inv possible safe
  | reply submits token reqId msg =>
    exact routed_of_same inv (congrArg CurrentState.sessions replyToRequest_store) (.refl _)
  | acknowledge writes attributed submits now target epoch =>
    exact acknowledge_routed inv safe
  | retire sid => exact routed_of_same inv rfl (.refl _)

/-- As long as each source has helpers launched and marked one at a time, continuations stay
    loadable in every run. -/
theorem ask_to_routing_stays_loadable {core : CoreRuntime} {actions : List RoutingAction}
    (fine : sessionsAreInvalid core.store.sessions = false)
    (run : Run (Guarded Safe Step) { core := core, launches := [] } actions after) :
    askToContinuationsAreInvalid after.sessions = false :=
  (askToContinuationsAreInvalid_eq_false).mpr (guarded_run_invariant Routed step_routed run
      ⟨lawful_of_sessions fine,fun _ mem => absurd mem not_mem_nil,.nil⟩).lawful

end Keep

def coordinator : SessionRecord :=
  { id := "coordinator", projectId := "project", kind := .agent
    process := { cwd := "/project", agentId := some "claude" }
    lifecycleState := "running", runtimeEpoch := 1 }

def coordinatorCore : CoreRuntime :=
  { store :=
      { CurrentState.empty with
        projects := [{ id := "project", folderPath := "/project" }], sessions := [coordinator]
        agentConversationReadiness := [{ sessionId := "coordinator", readiness := .resumable }] }
    workflowExecutions := [], runtimeEpoch := 1, requests := [], bySource := ∅, conversations := ∅
    completions := ∅
    capabilities := AList.singleton "coordinator"
      { token := "secret", sessionId := "coordinator", runtimeEpoch := 1, role := .interactive } }

def readyHost : Host :=
  { supportsTrackedHelpers := true, configurationAccepted := true, launchable := true
    helperRunning := true, observation := none, submits := true }

def reviewInput (key : String) : AskToInput :=
  { target := "codex", message := "review", model := none, reasoning := none
    idempotencyKey := some key, conversationId := none, launchSelection := none
    pinsProfile := false }

def reviewIds (name : String) : FreshIds :=
  { requestId := "request-" ++ name, conversationId := "conversation-" ++ name
    helperSessionId := "helper-" ++ name, mcpToken := "token-" ++ name, resumeRef := none }

def reviewPlan (name : String) : HelperLaunch :=
  helperLaunch (reviewIds name) coordinator "codex" none

def planReview (name : String) : RoutingAction :=
  .plan readyHost (reviewIds name) "secret" (reviewInput name) true

theorem reviewIds_new (conversation : validId (reviewIds name).conversationId)
    (req : validId (reviewIds name).requestId)
    (unused : (daemon.sessions.any fun sess => sess.askToContinuation.any fun c =>
      c.conversationId == (reviewIds name).conversationId) = false)
    (unplanned : (daemon.launches.any fun plan =>
      plan.continuation.conversationId == (reviewIds name).conversationId) = false) :
    NewIds daemon (reviewIds name) := by
  refine ⟨conversation,req,?_,?_⟩
  · simpa [any_eq_false, Option.any_eq_true] using unused
  · simpa [any_eq_false] using unplanned

/-- Two reviewers planned, one launched: only the launch writes, with nothing else open. -/
theorem first_review_stays_loadable :
    ∃ after, Run (Guarded Safe Step) { core := coordinatorCore, launches := [] }
        [planReview "1", planReview "2", .launch (reviewPlan "1") true true] after ∧
      after.sessions = [coordinator, (reviewPlan "1").session 1] ∧
      askToContinuationsAreInvalid after.sessions = false := by
  have fine : sessionsAreInvalid coordinatorCore.store.sessions = false := rfl
  refine exists_reached ⟨_,Run.cons ⟨fun _ => trivial,reviewIds_new rfl rfl rfl rfl,rfl⟩
    (Run.cons ⟨fun _ => trivial,reviewIds_new rfl rfl rfl rfl,rfl⟩
      (run_single ⟨?quiet,mem_cons_self,rfl⟩)),rfl⟩ ?_
  · intro _ session present named
    rw [mem_singleton.mp present] at named
    cases named
  · exact fun _ run _ => ask_to_routing_stays_loadable fine run

/-- Launching both reviewers leaves two open requests of one source, which the next start
    refuses. -/
theorem parallel_reviews_break_routing : sessionsAreInvalid coordinatorCore.store.sessions = false ∧
      ∃ after, Run Step { core := coordinatorCore, launches := [] }
          [planReview "1", .launch (reviewPlan "1") true true, planReview "2",
            .launch (reviewPlan "2") true true] after ∧
        askToContinuationsAreInvalid after.sessions = true ∧
        validateCurrentState after.core.store = .error .corruptRecord :=
  ⟨rfl,_,Run.cons ⟨reviewIds_new rfl rfl rfl rfl,rfl⟩ (Run.cons ⟨mem_cons_self,rfl⟩
      (Run.cons ⟨reviewIds_new rfl rfl rfl rfl,rfl⟩ (run_single ⟨mem_cons_self,rfl⟩))),
    rfl,rfl⟩

end TermloopRouting
