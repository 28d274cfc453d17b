import Termloop.AgentRuntime.Delivery

/-!
What one delivery record may become without being replaced. Every operation on a
record is an `Evolution`; evolutions compose, so the registry only has to know
which record an operation touched.
-/
namespace TermloopDelivery

variable {Submission : Type}

def GeneratedInputDeliveryState.isFailing : GeneratedInputDeliveryState → Bool
  | .stalled | .blocked | .failed | .requiresUserResubmit => true
  | _ => false

def GeneratedInputDeliveryState.isConfirmation : GeneratedInputDeliveryState → Bool
  | .confirmed | .confirmedUnattributed => true
  | _ => false

namespace GeneratedInputDelivery

def SameRecord (a b : GeneratedInputDelivery Submission) : Prop := a.cancelSubmit = b.cancelSubmit

/-- Failing states, and they only, have a failure, never without a first one. -/
def Sound (d : GeneratedInputDelivery Submission) : Prop :=
  (d.failure.isSome = true ↔ d.state.isFailing = true) ∧
    (d.failure.isSome = true → d.originalFailure.isSome = true)

/-- A kept confirmation is an observation of this epoch past the baseline. -/
def Witnessed (seen : Nat → Nat → Prop) (d : GeneratedInputDelivery Submission) : Prop :=
  ∀ sequence activity, d.providerConfirmation = some (sequence, activity) →
    sequence > d.providerSequenceBaseline ∧ seen d.runtimeEpoch sequence

/-- The record's number and the places of its flags. -/
def identity (d : GeneratedInputDelivery Submission) : Nat × Nat × Nat × Nat :=
  (d.id, d.cancelSubmit, d.pasteStarted, d.submitReceiptedSignal)

/-- `seen` are the observations of this record, the current one included. -/
structure Evolution (seen : Nat → Nat → Prop) (d next : GeneratedInputDelivery Submission) : Prop where
  identity : next.identity = d.identity
  original : ∀ failure, d.originalFailure = some failure → next.originalFailure = some failure
  confirmed : d.state = .confirmed → next.state = .confirmed
  sound : d.Sound → next.Sound
  witnessed : d.Witnessed seen → next.Witnessed seen
  confirms : d.Witnessed seen → next.state.isConfirmation = true → next.state ≠ d.state →
    ∃ sequence, sequence > next.providerSequenceBaseline ∧ seen next.runtimeEpoch sequence

variable {seen : Nat → Nat → Prop} {d : GeneratedInputDelivery Submission}

theorem Evolution.id (evolution : Evolution seen d next) : next.id = d.id :=
  congrArg Prod.fst evolution.identity

theorem Evolution.same (evolution : Evolution seen d next) : next.SameRecord d :=
  show next.cancelSubmit = d.cancelSubmit from congrArg (·.2.1) evolution.identity

theorem Evolution.pasteStarted (evolution : Evolution seen d next) :
    next.pasteStarted = d.pasteStarted :=
  congrArg (·.2.2.1) evolution.identity

theorem Evolution.of_quiet (identity : next.identity = d.identity)
    (failures : next.originalFailure = d.originalFailure ∧ next.failure = d.failure)
    (st : next.state = d.state) (witnessed : d.Witnessed seen → next.Witnessed seen) :
    Evolution seen d next where
  identity := identity
  original := fun _ h => failures.1.trans h
  confirmed := fun h => st.trans h
  sound := by
    intro sound
    simpa only [Sound, failures.1, failures.2, st] using sound
  witnessed := witnessed
  confirms := fun _ _ edited => absurd st edited

theorem Evolution.refl (d : GeneratedInputDelivery Submission) : Evolution seen d d :=
  of_quiet rfl ⟨rfl,rfl⟩ rfl fun h => h

theorem Evolution.trans (first : Evolution seen d middle) (second : Evolution seen middle next)
    (quiet : middle.state = d.state) : Evolution seen d next where
  identity := second.identity.trans first.identity
  original := fun failure h => second.original failure (first.original failure h)
  confirmed := fun h => second.confirmed (first.confirmed h)
  sound := fun h => second.sound (first.sound h)
  witnessed := fun h => second.witnessed (first.witnessed h)
  confirms := fun h confirmation edited =>
    second.confirms (first.witnessed h) confirmation (quiet ▸ edited)

theorem original_kept (failure first : GeneratedInputDeliveryFailure)
    (h : d.originalFailure = some first) :
    (d.recordDeliveryFailure failure).originalFailure = some first := by
  simp [recordDeliveryFailure, h]

theorem original_present (d : GeneratedInputDelivery Submission)
    (failure : GeneratedInputDeliveryFailure) :
    (d.recordDeliveryFailure failure).originalFailure.isSome := by
  cases h : d.originalFailure <;> simp [recordDeliveryFailure, h]

theorem Evolution.of_stop (notConfirmed : d.state ≠ .confirmed)
    (identity : next.identity = d.identity) (failure : GeneratedInputDeliveryFailure)
    (failures : next.originalFailure = (d.recordDeliveryFailure failure).originalFailure ∧
      next.failure = some failure) (failing : next.state.isFailing)
    (observed : next.providerConfirmation = none ∨
      next.providerConfirmation = d.providerConfirmation ∧ next.runtimeEpoch = d.runtimeEpoch ∧
        next.providerSequenceBaseline = d.providerSequenceBaseline) : Evolution seen d next where
  identity := identity
  original := fun first h => failures.1.trans (original_kept failure first h)
  confirmed := fun h => absurd h notConfirmed
  sound := by
    intro _
    constructor
    · simp [failures.2, failing]
    · intro _
      rw [failures.1]
      exact original_present d failure
  witnessed := by
    intro kept seq activity h
    rcases observed with none | ⟨confirmation,epoch,baseline⟩
    · rw [none] at h
      cases h
    · rw [epoch, baseline]
      exact kept seq activity (confirmation ▸ h)
  confirms := by
    intro _ confirmation
    cases h : next.state <;> simp [h, GeneratedInputDeliveryState.isFailing,
      GeneratedInputDeliveryState.isConfirmation] at failing confirmation

theorem Evolution.of_confirm (notConfirmed : d.state ≠ .confirmed)
    (identity : next.identity = d.identity)
    (original : ∀ failure, d.originalFailure = some failure → next.originalFailure = some failure)
    (cleared : next.failure = none) (confirmation : next.state.isConfirmation)
    (kept : next.runtimeEpoch = d.runtimeEpoch ∧
      next.providerSequenceBaseline = d.providerSequenceBaseline)
    (observed : d.Witnessed seen → ∃ seq activity,
      next.providerConfirmation = some (seq, activity) ∧
        seq > d.providerSequenceBaseline ∧ seen d.runtimeEpoch seq) :
    Evolution seen d next where
  identity := identity
  original := original
  confirmed := fun h => absurd h notConfirmed
  sound := by
    intro _
    constructor
    · rw [cleared]
      cases h : next.state <;> simp [h, GeneratedInputDeliveryState.isFailing,
        GeneratedInputDeliveryState.isConfirmation] at confirmation ⊢
    · simp [cleared]
  witnessed := by
    intro pre seq activity h
    obtain ⟨s,a,held,past,received⟩ := observed pre
    rw [held] at h
    cases h
    rw [kept.1, kept.2]
    exact ⟨past,received⟩
  confirms := by
    intro pre _ _
    obtain ⟨s,_,_,past,received⟩ := observed pre
    rw [kept.1, kept.2]
    exact ⟨s,past,received⟩

theorem keepConfirmation_evolution
    (past : seq > d.providerSequenceBaseline) (received : seen d.runtimeEpoch seq) :
    Evolution seen d (d.keepConfirmation seq activity) := by
  refine .of_quiet rfl ⟨rfl,rfl⟩ rfl fun pre s a h => ?_
  simp only [keepConfirmation] at h ⊢
  split at h
  · rename_i cur currentActivity held
    split at h
    · cases h
      exact pre _ _ held
    · cases h
      exact ⟨past,received⟩
  · cases h
    exact ⟨past,received⟩

theorem stopTransport_evolution
    (failure : GeneratedInputDeliveryFailure) (started : Bool) (writing : d.state = .writingPaste)
    (failing : stopped.isFailing) :
    Evolution seen d (d.stopTransport stopped failure started) := by
  have notConfirmed : d.state ≠ .confirmed := by simp [writing]
  unfold stopTransport
  simp only
  split
  · exact Evolution.of_stop notConfirmed rfl failure ⟨rfl,rfl⟩ failing (.inl rfl)
  split
  · rename_i seq activity held
    refine Evolution.of_confirm notConfirmed rfl
      (fun first h => original_kept failure first h) rfl ?_ ⟨rfl,rfl⟩ ?_
    · simp only
      split <;> rfl
    · intro pre
      exact ⟨seq,activity,held,pre seq activity held⟩
  · exact Evolution.of_stop notConfirmed rfl failure ⟨rfl,rfl⟩ failing (.inr ⟨rfl,rfl,rfl⟩)

theorem stall_evolution (failure : GeneratedInputDeliveryFailure)
    (awaiting : d.state = .awaitingProviderAck) :
    Evolution seen d
      ({ d with providerAckSignal := false, state := .stalled }.recordDeliveryFailure failure) :=
  Evolution.of_stop (by simp [awaiting]) rfl failure ⟨rfl,rfl⟩ rfl (.inr ⟨rfl,rfl,rfl⟩)

theorem awaiting_evolution (writing : d.state = .writingPaste) :
    Evolution seen d { d with state := .awaitingProviderAck, failure := none } where
  identity := rfl
  original := fun _ h => h
  confirmed := fun h => by simp [writing] at h
  sound := fun _ => by simp [Sound, GeneratedInputDeliveryState.isFailing]
  witnessed := fun h => h
  confirms := fun _ confirmation => by
    simp [GeneratedInputDeliveryState.isConfirmation] at confirmation

theorem applyOutcome_evolution (applied : d.applyOutcome started outcome = some next) :
    Evolution seen d next := by
  cases outcome with
  | submitted =>
    simp only [applyOutcome] at applied
    split at applied
    · cases applied
    rename_i writing
    have writing : d.state = .writingPaste := not_not.mp writing
    split at applied
    · rename_i seq activity held
      split at applied
      · cases applied
        exact Evolution.of_confirm (by simp [writing]) rfl (fun _ h => h) rfl rfl
          ⟨rfl,rfl⟩ (fun pre => ⟨seq,activity,held,pre seq activity held⟩)
      · cases applied
        exact awaiting_evolution writing
    · cases applied
      exact awaiting_evolution writing
  | submitRetried =>
    simp only [applyOutcome] at applied
    split at applied
    · cases applied
    cases applied
    exact Evolution.refl d
  | submitRetryFailed | providerAckTimedOut =>
    simp only [applyOutcome] at applied
    split at applied
    · cases applied
    rename_i awaiting
    cases applied
    exact stall_evolution _ (not_not.mp awaiting)
  | blocked failure | failed failure =>
    simp only [applyOutcome] at applied
    split at applied
    · cases applied
    rename_i writing
    cases applied
    exact stopTransport_evolution failure started (not_not.mp writing) rfl

theorem current_receipt (d : GeneratedInputDelivery Submission)
    (cur : d.runtimeEpoch = epoch ∧ ¬ seq ≤ d.providerSequenceBaseline)
    (received : seen epoch seq) :
    seq > d.providerSequenceBaseline ∧ seen d.runtimeEpoch seq :=
  ⟨Nat.lt_of_not_le cur.2,cur.1 ▸ received⟩

theorem submissionState_cases (chosen : d.submissionState activity = some next) :
    d.state ≠ .confirmed ∧ next.isConfirmation := by
  unfold submissionState at chosen
  split at chosen
  case h_1 st | h_2 st =>
    cases chosen
    exact ⟨by simp [st],rfl⟩
  case h_3 st | h_4 st =>
    refine ⟨by simp [st],?_⟩
    split at chosen
    · split at chosen <;> cases chosen <;> rfl
    cases chosen
    rfl
  case h_5 => cases chosen

section
variable (d)

theorem confirmSubmission_evolution (started : Bool)
    (activity : Option UserInputActivitySnapshot) (received : seen epoch seq) :
    Evolution seen d (d.confirmSubmission started epoch seq activity).1 := by
  unfold confirmSubmission
  split
  · exact Evolution.refl d
  rename_i cur
  obtain ⟨past,received⟩ := current_receipt d (by tauto) received
  split
  · exact Evolution.refl d
  split
  · exact (keepConfirmation_evolution past received).trans
      (.of_quiet rfl ⟨rfl,rfl⟩ rfl fun h => h) rfl
  · split
    · exact Evolution.refl d
    rename_i next chosen
    obtain ⟨notConfirmed,confirmation⟩ := submissionState_cases chosen
    exact Evolution.of_confirm notConfirmed rfl (fun _ h => h) rfl confirmation
      ⟨rfl,rfl⟩ (fun _ => ⟨seq,activity,rfl,past,received⟩)

theorem confirmProgress_evolution (epoch seq : Nat) :
    Evolution seen d (d.confirmProgress epoch seq).1 := by
  unfold confirmProgress
  iterate 3 (split; · exact Evolution.refl d)
  rename_i unattributed
  have st : d.state = .confirmedUnattributed := not_not.mp unattributed
  split
  · exact Evolution.refl d
  rename_i confirmed activity held
  split
  · exact Evolution.refl d
  exact Evolution.of_confirm (by simp [st]) rfl (fun _ h => h) rfl rfl
    ⟨rfl,rfl⟩ (fun pre => ⟨confirmed,activity,held,pre confirmed activity held⟩)

theorem confirmQueueProgress_evolution (receipted : Bool) (received : seen epoch seq) :
    Evolution seen d (d.confirmQueueProgress receipted epoch seq).1 := by
  unfold confirmQueueProgress
  split
  · exact Evolution.refl d
  rename_i cur
  obtain ⟨past,received⟩ := current_receipt d (by tauto) received
  split
  · exact keepConfirmation_evolution past received
  split
  · exact Evolution.refl d
  rename_i awaiting
  have st : d.state = .awaitingProviderAck := not_not.mp awaiting
  exact Evolution.of_confirm (by simp [st]) rfl (fun _ h => h) rfl rfl
    ⟨rfl,rfl⟩ (fun _ => ⟨seq,none,rfl,past,received⟩)

theorem transitionEpoch_evolution (epoch : Nat) : Evolution seen d (d.transitionEpoch epoch) := by
  unfold transitionEpoch
  simp only
  split
  · rename_i notConfirmed
    exact Evolution.of_stop notConfirmed rfl .runtimeEpochChanged ⟨rfl,rfl⟩ rfl (.inl rfl)
  exact .of_quiet rfl ⟨rfl,rfl⟩ rfl fun _ _ _ h => by cases h

end

theorem blockWriting_evolution (cause : GeneratedInputDeliveryCancelCause)
    (notification : Option String) (writing : d.state = .writingPaste) :
    Evolution seen d (d.blockWriting cause notification) :=
  Evolution.of_stop (by simp [writing]) rfl .composerUnavailable ⟨rfl,rfl⟩ rfl (.inr ⟨rfl,rfl,rfl⟩)

end GeneratedInputDelivery
end TermloopDelivery
