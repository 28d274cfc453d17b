import Termloop.Lib.KeyedTables
import Termloop.Lib.Operations

/-!
The generated-input delivery registry of the agent runtime. A record shares
three atomic flags with its transport worker; the flags live in a heap of
booleans and a record holds their addresses, so two records are the same one
exactly when they hold the same addresses. Terminal calls answer through an
argument, and a submission stays opaque.
-/
namespace TermloopDelivery
open TermloopSaturating

def maxRuntimeDeliveries : Nat := 256

inductive GeneratedInputDeliveryState where
  | writingPaste | awaitingProviderAck | confirmed | confirmedUnattributed
  | stalled | blocked | failed | requiresUserResubmit
  deriving DecidableEq

def GeneratedInputDeliveryState.isActive : GeneratedInputDeliveryState → Bool
  | .writingPaste | .awaitingProviderAck => true
  | _ => false

def GeneratedInputDeliveryState.acceptsReplacement : GeneratedInputDeliveryState → Bool
  | .confirmed | .confirmedUnattributed | .requiresUserResubmit => true
  | _ => false

inductive GeneratedInputDeliveryFailure where
  | terminalUnavailable | pasteWriteFailed | outputDidNotSettle | userInputInterleaved
  | providerAckMissing | composerUnavailable | composerNotReady | runtimeEpochChanged
  | terminalClosed | submitWriteFailed | workerUnavailable
  deriving DecidableEq

inductive GeneratedInputDeliveryCancelCause where
  | permissionRequested | notification | providerAwaitingInput | providerBusy | providerTurnFailed

inductive GeneratedInputSettlement where
  | outputActivity | composerRender | codexComposerRender | providerQueue
  deriving DecidableEq

inductive OutputSettlementEvidence where
  | quiescence | synchronizedFrame | composerRenderQuiescence | composerCursorMovement
  | composerSurfaceStability
  deriving DecidableEq

structure OutputActivityDiagnostics where
  outputChunks : Nat := 0
  synchronizedFrames : Nat := 0
  composerRenders : Nat := 0
  completedComposerFrames : Nat := 0
  composerSurfaceFrames : Nat := 0
  composerCursorMoved : Bool := false
  deriving DecidableEq

structure UserInputActivitySnapshot where
  (sequence mutationSequence : Nat)

structure GeneratedInputDelivery (Submission : Type) where
  (id runtimeEpoch providerSequenceBaseline : Nat)
  settlement : GeneratedInputSettlement
  submission : Submission
  state : GeneratedInputDeliveryState
  (failure originalFailure : Option GeneratedInputDeliveryFailure)
  cancelCause : Option GeneratedInputDeliveryCancelCause
  cancelNotificationType : Option String
  pasteStarted : Nat
  pasteReceipted : Bool
  settlementEvidence : Option OutputSettlementEvidence
  submitReceiptedSignal : Nat
  submitReceipted : Bool
  (submitAttempts protocolReplyWaits : Nat)
  userInputMutated : Option Bool
  outputActivity : OutputActivityDiagnostics
  (userInputSequenceBaseline userInputMutationSequenceBaseline : Nat)
  providerConfirmation : Option (Nat × Option UserInputActivitySnapshot)
  cancelSubmit : Nat
  providerAckSignal : Bool

structure GeneratedInputTransportDiagnostics where
  pasteReceipted : Bool := false
  settlementEvidence : Option OutputSettlementEvidence := none
  submitReceipted : Bool := false
  submitAttempts : Nat := 0
  protocolReplyWaits : Nat := 0
  outputActivity : OutputActivityDiagnostics := {}

inductive GeneratedInputTransportOutcome where
  | submitted | submitRetried
  | submitRetryFailed (failure : GeneratedInputDeliveryFailure)
  | providerAckTimedOut
  | blocked (failure : GeneratedInputDeliveryFailure)
  | failed (failure : GeneratedInputDeliveryFailure)

structure GeneratedInputRuntimeEvent where
  sessionId : String
  (runtimeEpoch deliveryId : Nat)
  outcome : GeneratedInputTransportOutcome
  diagnostics : GeneratedInputTransportDiagnostics

variable {Submission : Type}

namespace GeneratedInputDelivery

def signalProviderAck (d : GeneratedInputDelivery Submission) : GeneratedInputDelivery Submission :=
  { d with providerAckSignal := false }

def recordDeliveryFailure (d : GeneratedInputDelivery Submission)
    (failure : GeneratedInputDeliveryFailure) : GeneratedInputDelivery Submission :=
  { d with originalFailure := d.originalFailure.or (some failure), failure := some failure }

def recordConfirmationActivity (d : GeneratedInputDelivery Submission)
    (activity : Option UserInputActivitySnapshot) : GeneratedInputDelivery Submission :=
  { d with userInputMutated := activity.map fun a =>
      decide (a.mutationSequence ≠ d.userInputMutationSequenceBaseline) }

def submissionContentUnchanged (d : GeneratedInputDelivery Submission)
    (activity : Option UserInputActivitySnapshot) : Bool :=
  activity.any fun a =>
    decide (a.sequence ≥ d.userInputSequenceBaseline) &&
      decide (a.mutationSequence = d.userInputMutationSequenceBaseline)

def manualRecoveryIsAttributed (d : GeneratedInputDelivery Submission)
    (failure : GeneratedInputDeliveryFailure) (activity : Option UserInputActivitySnapshot) : Bool :=
  (match failure with
    | .outputDidNotSettle | .userInputInterleaved | .submitWriteFailed => true
    | _ => false) && d.submissionContentUnchanged activity

def unwrittenReadinessFailure (failure : GeneratedInputDeliveryFailure) (started : Bool) : Bool :=
  decide (failure = .composerNotReady) && !started

def mergeTransportDiagnostics (d : GeneratedInputDelivery Submission)
    (g : GeneratedInputTransportDiagnostics) : GeneratedInputDelivery Submission :=
  { d with
    pasteReceipted := d.pasteReceipted || g.pasteReceipted
    settlementEvidence := if g.settlementEvidence.isSome then g.settlementEvidence
      else d.settlementEvidence
    submitReceipted := d.submitReceipted || g.submitReceipted
    submitAttempts := max d.submitAttempts g.submitAttempts
    protocolReplyWaits := max d.protocolReplyWaits g.protocolReplyWaits
    outputActivity := if g.outputActivity ≠ {} then g.outputActivity else d.outputActivity }

def diagnosticsChanged (before after : GeneratedInputDelivery Submission) : Bool :=
  decide ((before.pasteReceipted, before.settlementEvidence, before.submitReceipted,
      before.submitAttempts, before.protocolReplyWaits, before.outputActivity) ≠
    (after.pasteReceipted, after.settlementEvidence, after.submitReceipted,
      after.submitAttempts, after.protocolReplyWaits, after.outputActivity))

/-- Common tail of `Blocked` and `Failed`; `stopped` is the state of an unconfirmed record.
    -/
def stopTransport (d : GeneratedInputDelivery Submission) (stopped : GeneratedInputDeliveryState)
    (failure : GeneratedInputDeliveryFailure) (started : Bool) : GeneratedInputDelivery Submission :=
  let d := { d with providerAckSignal := false }.recordDeliveryFailure failure
  if unwrittenReadinessFailure failure started then
    { d with providerConfirmation := none, state := stopped }
  else
    match d.providerConfirmation with
    | some (_, activity) =>
      let d := d.recordConfirmationActivity activity
      { d with
        state := if d.manualRecoveryIsAttributed failure activity then .confirmed
          else .confirmedUnattributed
        failure := none }
    | none => { d with state := stopped }

/-- `match outcome` of `apply_transport_event`; `none` does not fit the record's state. -/
def applyOutcome (d : GeneratedInputDelivery Submission) (started : Bool) :
    GeneratedInputTransportOutcome → Option (GeneratedInputDelivery Submission)
  | .submitted =>
    if d.state ≠ .writingPaste then none
    else
      match d.providerConfirmation with
      | some (sequence, activity) =>
        if sequence > d.providerSequenceBaseline then
          some { d.recordConfirmationActivity activity with state := .confirmed, failure := none }
        else some { d with state := .awaitingProviderAck, failure := none }
      | none => some { d with state := .awaitingProviderAck, failure := none }
  | .submitRetried => if d.state ≠ .awaitingProviderAck then none else some d
  | .submitRetryFailed failure =>
    if d.state ≠ .awaitingProviderAck then none
    else some ({ d with providerAckSignal := false, state := .stalled }.recordDeliveryFailure failure)
  | .providerAckTimedOut =>
    if d.state ≠ .awaitingProviderAck then none
    else some ({ d with providerAckSignal := false, state := .stalled }.recordDeliveryFailure
      .providerAckMissing)
  | .blocked failure =>
    if d.state ≠ .writingPaste then none else some (d.stopTransport .blocked failure started)
  | .failed failure =>
    if d.state ≠ .writingPaste then none else some (d.stopTransport .failed failure started)

/-- A confirmation during the paste is kept for the transport event, the larger sequence
    winning. -/
def keepConfirmation (d : GeneratedInputDelivery Submission) (sequence : Nat)
    (activity : Option UserInputActivitySnapshot) : GeneratedInputDelivery Submission :=
  { d with providerConfirmation :=
      match d.providerConfirmation with
      | some (current, currentActivity) =>
        if current > sequence then some (current, currentActivity) else some (sequence, activity)
      | none => some (sequence, activity) }

def submissionState (d : GeneratedInputDelivery Submission)
    (activity : Option UserInputActivitySnapshot) : Option GeneratedInputDeliveryState :=
  match d.state with
  | .awaitingProviderAck | .stalled => some .confirmed
  | .blocked | .failed =>
    match d.failure with
    | some failure =>
      if d.manualRecoveryIsAttributed failure activity then some .confirmed
      else some .confirmedUnattributed
    | none => some .confirmedUnattributed
  | _ => none

def confirmSubmission (d : GeneratedInputDelivery Submission) (started : Bool) (epoch sequence : Nat)
    (activity : Option UserInputActivitySnapshot) : GeneratedInputDelivery Submission × Bool :=
  if d.runtimeEpoch ≠ epoch ∨ sequence ≤ d.providerSequenceBaseline then (d, false)
  else if d.failure.any fun failure => unwrittenReadinessFailure failure started then (d, false)
  else if d.state = .writingPaste then
    ((d.keepConfirmation sequence activity).signalProviderAck, false)
  else
    match d.submissionState activity with
    | none => (d, false)
    | some next =>
      let d := { d with providerConfirmation := some (sequence, activity) }
      ({ d.recordConfirmationActivity activity with state := next, failure := none }.signalProviderAck,
        true)

/-- The third component says that `cancel_submit` is stored. -/
def confirmProgress (d : GeneratedInputDelivery Submission) (epoch sequence : Nat) :
    GeneratedInputDelivery Submission × Bool × Bool :=
  if d.runtimeEpoch ≠ epoch then (d, false, false)
  else if d.state = .awaitingProviderAck ∧ sequence > d.providerSequenceBaseline then
    (d, false, true)
  else if d.state ≠ .confirmedUnattributed then (d, false, false)
  else
    match d.providerConfirmation with
    | none => (d, false, false)
    | some (confirmed, _) =>
      if sequence ≤ confirmed then (d, false, false)
      else ({ d with state := .confirmed, failure := none }.signalProviderAck, true, false)

def confirmQueueProgress (d : GeneratedInputDelivery Submission) (receipted : Bool)
    (epoch sequence : Nat) : GeneratedInputDelivery Submission × Bool :=
  if d.runtimeEpoch ≠ epoch ∨ d.settlement ≠ .providerQueue ∨ receipted = false ∨
      sequence ≤ d.providerSequenceBaseline then (d, false)
  else if d.state = .writingPaste then (d.keepConfirmation sequence none, false)
  else if d.state ≠ .awaitingProviderAck then (d, false)
  else
    ({ d with providerConfirmation := some (sequence, none), state := .confirmed,
              failure := none }.signalProviderAck, true)

def transitionEpoch (d : GeneratedInputDelivery Submission) (epoch : Nat) :
    GeneratedInputDelivery Submission :=
  let d := { d with providerAckSignal := false, runtimeEpoch := epoch, providerConfirmation := none }
  if d.state ≠ .confirmed then
    { d with state := .requiresUserResubmit }.recordDeliveryFailure .runtimeEpochChanged
  else d

def failImmediately (d : GeneratedInputDelivery Submission)
    (failure : GeneratedInputDeliveryFailure) : GeneratedInputDelivery Submission :=
  { d with providerAckSignal := false, state := .failed }.recordDeliveryFailure failure

def blockWriting (d : GeneratedInputDelivery Submission)
    (cause : GeneratedInputDeliveryCancelCause) (notification : Option String) :
    GeneratedInputDelivery Submission :=
  { { d with providerAckSignal := false, state := .blocked }.recordDeliveryFailure
      .composerUnavailable with
    cancelCause := some cause, cancelNotificationType := notification }

def unwrittenBlock (d : GeneratedInputDelivery Submission) (started : Bool) : Bool :=
  decide (d.state = .blocked) &&
    (match d.failure with
      | some .composerUnavailable | some .composerNotReady => true
      | _ => false) && !started

end GeneratedInputDelivery

/-- The flag heap: a load outside of it cannot happen in a run and reads `false`. -/
def load (cells : List Bool) (address : Nat) : Bool := cells.getD address false

def store (cells : List Bool) (address : Nat) : List Bool := cells.set address true

def boundedNotificationType (value : String) : String := String.ofList (value.toList.take 64)

structure GeneratedInputDeliveryRuntime (Submission : Type) where
  nextId : Nat
  deliveries : AList fun _ : String => GeneratedInputDelivery Submission
  order : List String
  cells : List Bool

/-- What the terminal and the thread builder answer during one `begin`. -/
structure TerminalAnswers where
  userInputActivity : Option UserInputActivitySnapshot
  (inputReadinessSnapshot outputActivitySnapshot pasteEnqueued workerSpawned : Bool)

structure BeginReport where
  (accepted pasted worker : Bool)

namespace GeneratedInputDeliveryRuntime

def default : GeneratedInputDeliveryRuntime Submission := ⟨1, ∅, [], []⟩

variable (rt : GeneratedInputDeliveryRuntime Submission)

def put (sessionId : String) (d : GeneratedInputDelivery Submission) :
    GeneratedInputDeliveryRuntime Submission :=
  { rt with deliveries := rt.deliveries.insert sessionId d }

def storeCell (address : Nat) : GeneratedInputDeliveryRuntime Submission :=
  { rt with cells := store rt.cells address }

def removeSession (sessionId : String) : GeneratedInputDeliveryRuntime Submission :=
  { rt with
    cells := match rt.deliveries.lookup sessionId with
      | some d => store rt.cells d.cancelSubmit
      | none => rt.cells
    deliveries := rt.deliveries.erase sessionId
    order := rt.order.filter fun candidate => candidate ≠ sessionId }

def canBeginPendingSubmission (sessionId : String) (epoch : Nat) : Bool :=
  match rt.deliveries.lookup sessionId with
  | none => true
  | some d => decide (d.runtimeEpoch = epoch) &&
      (d.state.acceptsReplacement || d.unwrittenBlock (load rt.cells d.pasteStarted))

def evictable (sessionId : String) : Bool :=
  match rt.deliveries.lookup sessionId with
  | some d => !d.state.isActive
  | none => false

def forget (victim : Option String) : GeneratedInputDeliveryRuntime Submission :=
  match victim with
  | none => rt
  | some sessionId =>
    { rt with order := rt.order.erase sessionId, deliveries := rt.deliveries.erase sessionId }

def evictOldestTerminalDelivery : GeneratedInputDeliveryRuntime Submission :=
  rt.forget (rt.order.find? rt.evictable)

/-- Room for a record of this session; `false` when the registry stays full. -/
def makeRoom (sessionId : String) : GeneratedInputDeliveryRuntime Submission × Bool :=
  if rt.deliveries.lookup sessionId |>.isSome then (rt, true)
  else
    let rt := if rt.deliveries.keys.length ≥ maxRuntimeDeliveries then rt.evictOldestTerminalDelivery
      else rt
    (rt, decide (rt.deliveries.keys.length < maxRuntimeDeliveries))

def create (sessionId : String) (cancelled : Bool)
    (record : (id cancelSubmit pasteStarted submitReceipted : Nat) →
      GeneratedInputDelivery Submission) : GeneratedInputDeliveryRuntime Submission where
  nextId := saturatingAdd rt.nextId 1
  order := (rt.order.filter fun candidate => candidate ≠ sessionId) ++ [sessionId]
  deliveries := rt.deliveries.insert sessionId
    (record rt.nextId rt.cells.length (rt.cells.length + 1) (rt.cells.length + 2))
  cells := rt.cells ++ [cancelled, false, false]

def failSession (sessionId : String) (failure : GeneratedInputDeliveryFailure) :
    GeneratedInputDeliveryRuntime Submission :=
  match rt.deliveries.lookup sessionId with
  | some d => rt.put sessionId (d.failImmediately failure)
  | none => rt

/-- The record `begin` inserts; `inherited` is the unwritten block it takes over. -/
def beginRecord (epoch baseline : Nat) (submission : Submission)
    (settlement : GeneratedInputSettlement) (activity : Option UserInputActivitySnapshot)
    (inherited : Option (GeneratedInputDelivery Submission))
    (id cancelSubmit pasteStarted submitReceipted : Nat) : GeneratedInputDelivery Submission where
  id := id
  runtimeEpoch := epoch
  providerSequenceBaseline := baseline
  settlement := settlement
  submission := submission
  state := .writingPaste
  failure := none
  originalFailure := inherited.bind (·.originalFailure)
  cancelCause := inherited.bind (·.cancelCause)
  cancelNotificationType := inherited.bind (·.cancelNotificationType)
  pasteStarted := pasteStarted
  pasteReceipted := false
  settlementEvidence := none
  submitReceiptedSignal := submitReceipted
  submitReceipted := false
  submitAttempts := 0
  protocolReplyWaits := 0
  userInputMutated := none
  outputActivity := {}
  userInputSequenceBaseline := (activity.map (·.sequence)).getD 0
  userInputMutationSequenceBaseline := (activity.map (·.mutationSequence)).getD 0
  providerConfirmation := none
  cancelSubmit := cancelSubmit
  providerAckSignal := true

def blockedRecord (epoch baseline : Nat) (submission : Submission)
    (cause : GeneratedInputDeliveryCancelCause) (notification : Option String)
    (id cancelSubmit pasteStarted submitReceipted : Nat) : GeneratedInputDelivery Submission :=
  { beginRecord epoch baseline submission .outputActivity none none id cancelSubmit pasteStarted
      submitReceipted with
    state := .blocked, failure := some .composerUnavailable
    originalFailure := some .composerUnavailable, cancelCause := some cause
    cancelNotificationType := notification, providerAckSignal := false }

def inheritedUnwrittenBlock (sessionId : String) (epoch : Nat) :
    Option (GeneratedInputDelivery Submission) :=
  (rt.deliveries.lookup sessionId).filter fun d =>
    decide (d.runtimeEpoch = epoch) && d.unwrittenBlock (load rt.cells d.pasteStarted)

/-- From the inserted record to the worker thread: every early return fails the record. -/
def startTransport (sessionId : String) (pasteStarted : Nat)
    (settlement : GeneratedInputSettlement) (answers : TerminalAnswers) :
    GeneratedInputDeliveryRuntime Submission × BeginReport :=
  if answers.userInputActivity.isNone || !answers.inputReadinessSnapshot then
    (rt.failSession sessionId .terminalUnavailable, ⟨true, false, false⟩)
  else if settlement = .composerRender ∨ settlement = .codexComposerRender then
    if answers.workerSpawned then (rt, ⟨true, false, true⟩)
    else (rt.failSession sessionId .workerUnavailable, ⟨true, false, false⟩)
  else if !answers.outputActivitySnapshot then
    (rt.failSession sessionId .terminalUnavailable, ⟨true, false, false⟩)
  else
    let rt := rt.storeCell pasteStarted
    if !answers.pasteEnqueued then
      (rt.failSession sessionId .terminalUnavailable, ⟨true, false, false⟩)
    else if answers.workerSpawned then (rt, ⟨true, true, true⟩)
    else (rt.failSession sessionId .workerUnavailable, ⟨true, true, false⟩)

def beginAdmitted (sessionId : String) (epoch baseline : Nat) (submission : Submission)
    (settlement : GeneratedInputSettlement) (answers : TerminalAnswers) :
    GeneratedInputDeliveryRuntime Submission × BeginReport :=
  let inherited := rt.inheritedUnwrittenBlock sessionId epoch
  let (rt, room) := rt.makeRoom sessionId
  if room then
    (rt.create sessionId false (beginRecord epoch baseline submission settlement
      answers.userInputActivity inherited)).startTransport sessionId (rt.cells.length + 1)
        settlement answers
  else (rt, ⟨false, false, false⟩)

/-- `meanwhile` are the flags workers set between the two loads of `paste_started`. -/
def begin (sessionId : String) (epoch baseline : Nat) (submission : Submission)
    (settlement : GeneratedInputSettlement) (answers : TerminalAnswers) (meanwhile : List Nat) :
    GeneratedInputDeliveryRuntime Submission × BeginReport :=
  if rt.canBeginPendingSubmission sessionId epoch then
    (meanwhile.foldl storeCell rt).beginAdmitted sessionId epoch baseline submission settlement answers
  else (rt, ⟨false, false, false⟩)

def insertBlocked (sessionId : String) (epoch baseline : Nat) (submission : Submission)
    (cause : GeneratedInputDeliveryCancelCause) (notification : Option String) :
    GeneratedInputDeliveryRuntime Submission × Bool :=
  let (rt, room) := rt.makeRoom sessionId
  if room then
    (rt.create sessionId true (blockedRecord epoch baseline submission cause
      (notification.map boundedNotificationType)), true)
  else (rt, false)

def blockForUnavailableComposer (sessionId : String) (epoch baseline : Nat)
    (submission : Submission) (cause : GeneratedInputDeliveryCancelCause)
    (notification : Option String) : GeneratedInputDeliveryRuntime Submission × Bool :=
  match rt.deliveries.lookup sessionId with
  | some d =>
    if d.runtimeEpoch ≠ epoch then (rt, false)
    else if d.state = .writingPaste then
      ((rt.storeCell d.cancelSubmit).put sessionId
        (d.blockWriting cause (notification.map boundedNotificationType)), true)
    else if !d.state.acceptsReplacement then (rt, false)
    else ((rt.storeCell d.cancelSubmit).put sessionId d.signalProviderAck).insertBlocked sessionId
      epoch baseline submission cause notification
  | none => rt.insertBlocked sessionId epoch baseline submission cause notification

def transitionRuntimeEpoch (sessionId : String) (epoch : Nat) :
    GeneratedInputDeliveryRuntime Submission × Bool :=
  match rt.deliveries.lookup sessionId with
  | none => (rt, false)
  | some d =>
    if d.runtimeEpoch = epoch then (rt, false)
    else ((rt.storeCell d.cancelSubmit).put sessionId (d.transitionEpoch epoch), true)

def applyTransportEvent (event : GeneratedInputRuntimeEvent) :
    GeneratedInputDeliveryRuntime Submission × Bool :=
  match rt.deliveries.lookup event.sessionId with
  | none => (rt, false)
  | some d =>
    if d.id ≠ event.deliveryId ∨ d.runtimeEpoch ≠ event.runtimeEpoch then (rt, false)
    else
      let rt := if event.diagnostics.submitReceipted then rt.storeCell d.submitReceiptedSignal else rt
      let merged := d.mergeTransportDiagnostics event.diagnostics
      match merged.applyOutcome (load rt.cells d.pasteStarted) event.outcome with
      | none => (rt.put event.sessionId merged, d.diagnosticsChanged merged)
      | some next => (rt.put event.sessionId next, true)

def confirmProviderSubmission (sessionId : String) (epoch sequence : Nat)
    (activity : Option UserInputActivitySnapshot) :
    GeneratedInputDeliveryRuntime Submission × Bool :=
  match rt.deliveries.lookup sessionId with
  | none => (rt, false)
  | some d =>
    let (next, changed) := d.confirmSubmission (load rt.cells d.pasteStarted) epoch sequence activity
    (rt.put sessionId next, changed)

def confirmProviderProgress (sessionId : String) (epoch sequence : Nat) :
    GeneratedInputDeliveryRuntime Submission × Bool :=
  match rt.deliveries.lookup sessionId with
  | none => (rt, false)
  | some d =>
    let (next, changed, cancel) := d.confirmProgress epoch sequence
    ((if cancel then rt.storeCell d.cancelSubmit else rt).put sessionId next, changed)

def confirmProviderQueueProgress (sessionId : String) (epoch sequence : Nat) :
    GeneratedInputDeliveryRuntime Submission × Bool :=
  match rt.deliveries.lookup sessionId with
  | none => (rt, false)
  | some d =>
    let (next, changed) := d.confirmQueueProgress (load rt.cells d.submitReceiptedSignal) epoch sequence
    (rt.put sessionId next, changed)

end GeneratedInputDeliveryRuntime

end TermloopDelivery
