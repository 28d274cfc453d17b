import Termloop.Store.Archive

/-!
Operations on single Session descriptors: a first insert, finishing a resume,
bringing an archived descriptor back or deleting it, and the durable mark of a helper's current Ask-To
request.
-/
namespace TermloopStore
open TermloopRecordLists TermloopOutcome

def insertSession (session : SessionRecord) (persisted : Bool) (state : CurrentState) :
    Answer Nat :=
  if state.sessions.any (·.id == session.id) then (.error .alreadyExists, state)
  else
    let readiness : List AgentConversationReadinessRecord :=
      if session.kind == .agent then [{ sessionId := session.id, readiness := .unconfirmed }]
      else []
    commitRevision persisted state
      { state with
        sessions := state.sessions ++ [session]
        agentConversationReadiness := state.agentConversationReadiness ++ readiness }

def SessionRecord.resumed (runtimeEpoch : Nat) (session : SessionRecord) : SessionRecord :=
  { session with
    lifecycleState := "running", runtimeEpoch := runtimeEpoch, resumeFailure := none }

def markResumable (sessionId : String) (records : List AgentConversationReadinessRecord) :
    List AgentConversationReadinessRecord :=
  updateFirst (·.sessionId == sessionId)
    (fun record => { record with readiness := .resumable }) records

def completeSessionResume (sessionId : String) (expectedResumeRef : ResumeRef)
    (runtimeEpoch : Nat) (persisted : Bool) (state : CurrentState) : Answer Nat :=
  if !state.agentConversationReadiness.any (·.sessionId == sessionId) then
    (.error .constraintViolation, state)
  else
    match state.session? sessionId with
    | none => (.error .notFound, state)
    | some session =>
      if session.lifecycleState != "resuming" || session.resumeRef != some expectedResumeRef then
        (.error .constraintViolation, state)
      else
        commitRevision persisted state
          { state.updateSession sessionId (SessionRecord.resumed runtimeEpoch) with
            agentConversationReadiness := markResumable sessionId state.agentConversationReadiness
            sessionRelocationReceipts := state.sessionRelocationReceipts.filter
              (·.sessionId != sessionId) }

def SessionRecord.unarchived (relocatedCwd : Option String) (session : SessionRecord) :
    SessionRecord :=
  { session.exited with
    archivedAt := none
    process := { session.process with cwd := relocatedCwd.getD session.process.cwd } }

def restoreArchivedSessionDescriptor (sessionId : String) (relocatedCwd : Option String)
    (persisted : Bool) (state : CurrentState) : Answer SessionRecord :=
  match state.sessionArchiveOperations.find? (·.sessionId == sessionId) with
  | some operation => (.error (.journalConflict operation.operationId), state)
  | none =>
    match state.session? sessionId with
    | none => (.error .notFound, state)
    | some session =>
      if session.archivedAt.isNone then (.ok session, state)
      else
        commitOrRestore persisted state
          (state.updateSession sessionId (SessionRecord.unarchived relocatedCwd))
          (session.unarchived relocatedCwd)

def SessionRecord.forgetAskTo (sessionId : String) (session : SessionRecord) : SessionRecord :=
  if session.id == sessionId || session.askToSourceSessionId == some sessionId then
    { session with askToContinuation := none }
  else session

def deleteArchivedSessionDescriptor (sessionId : String) (persisted : Bool)
    (state : CurrentState) : Answer SessionRecord :=
  match state.sessionArchiveOperations.find? (·.sessionId == sessionId) with
  | some operation => (.error (.journalConflict operation.operationId), state)
  | none =>
    match state.session? sessionId with
    | none => (.error .notFound, state)
    | some session =>
      if session.archivedAt.isNone then (.error .sessionNotClosable, state)
      else
        -- the continuations are cleared before the descriptor is taken out
        let cleared := state.sessions.map (SessionRecord.forgetAskTo sessionId)
        commitOrRestore persisted state
          { state with
            sessions := cleared.eraseP (·.id == sessionId)
            agentConversationReadiness := state.agentConversationReadiness.filter
              (·.sessionId != sessionId) }
          (session.forgetAskTo sessionId)

/-- The helper runs, and the asking Agent still runs in its Project. -/
def servesSource (sessions : List SessionRecord) (helper : SessionRecord) : Bool :=
  match helper.askToSourceSessionId with
  | none => false
  | some sourceSessionId =>
    helper.lifecycleState != "exited"
      && helper.process.templateRef == some askToHelperTemplate
      && sessions.any fun source =>
        source.id == sourceSessionId && source.kind == .agent
          && source.projectId == helper.projectId && source.lifecycleState != "exited"

def setAskToCurrentRequest (helperSessionId conversationId : String) (requestId : Option String)
    (persisted : Bool) (state : CurrentState) : Answer Nat :=
  match state.session? helperSessionId with
  | none => (.error .notFound, state)
  | some helper =>
    if !servesSource state.sessions helper then (.error .constraintViolation, state)
    else
      match helper.askToContinuation.filter (·.conversationId == conversationId) with
      | none => (.error .constraintViolation, state)
      | some continuation =>
        let proposed : AskToContinuation :=
          { conversationId := continuation.conversationId, currentRequestId := requestId }
        if !proposed.isWellFormed then (.error .constraintViolation, state)
        else if continuation == proposed then (.ok state.revision, state)
        else
          commitRevision persisted state
            (state.updateSession helperSessionId fun session =>
              { session with askToContinuation := some proposed })

end TermloopStore
