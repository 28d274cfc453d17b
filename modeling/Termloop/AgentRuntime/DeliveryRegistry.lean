import Termloop.Lib.Runs
import Termloop.AgentRuntime.DeliveryRecord

/-!
The registry over whole runs. `Effect` says once what an operation can do to the
map, the eviction order and the id counter; every invariant below is read off
from its three cases, a removal apart.
-/
namespace TermloopDelivery
open TermloopRuns TermloopSaturating List
open GeneratedInputDelivery GeneratedInputDeliveryRuntime

variable {Submission : Type}
variable {rt base : GeneratedInputDeliveryRuntime Submission} {sid : String}
  {d record next : GeneratedInputDelivery Submission} {seen : Nat → Nat → Nat → Prop}

inductive Operation (Submission : Type) where
  | begin (sessionId : String) (epoch baseline : Nat) (submission : Submission)
      (settlement : GeneratedInputSettlement) (answers : TerminalAnswers) (meanwhile : List Nat)
  | blockForUnavailableComposer (sessionId : String) (epoch baseline : Nat)
      (submission : Submission) (cause : GeneratedInputDeliveryCancelCause)
      (notification : Option String)
  | transitionRuntimeEpoch (sessionId : String) (epoch : Nat)
  | applyTransportEvent (event : GeneratedInputRuntimeEvent)
  | confirmProviderSubmission (sessionId : String) (epoch sequence : Nat)
      (activity : Option UserInputActivitySnapshot)
  | confirmProviderProgress (sessionId : String) (epoch sequence : Nat)
  | confirmProviderQueueProgress (sessionId : String) (epoch sequence : Nat)
  | removeSession (sessionId : String)
  /-- A worker sets one of the shared flags between two operations. -/
  | workerStore (address : Nat)

def perform (rt : GeneratedInputDeliveryRuntime Submission) :
    Operation Submission → GeneratedInputDeliveryRuntime Submission
  | .begin sessionId epoch baseline submission settlement answers meanwhile =>
    (rt.begin sessionId epoch baseline submission settlement answers meanwhile).1
  | .blockForUnavailableComposer sessionId epoch baseline submission cause notification =>
    (rt.blockForUnavailableComposer sessionId epoch baseline submission cause notification).1
  | .transitionRuntimeEpoch sessionId epoch => (rt.transitionRuntimeEpoch sessionId epoch).1
  | .applyTransportEvent event => (rt.applyTransportEvent event).1
  | .confirmProviderSubmission sessionId epoch sequence activity =>
    (rt.confirmProviderSubmission sessionId epoch sequence activity).1
  | .confirmProviderProgress sessionId epoch sequence =>
    (rt.confirmProviderProgress sessionId epoch sequence).1
  | .confirmProviderQueueProgress sessionId epoch sequence =>
    (rt.confirmProviderQueueProgress sessionId epoch sequence).1
  | .removeSession sessionId => rt.removeSession sessionId
  | .workerStore address => rt.storeCell address

structure Observation where
  (record epoch sequence : Nat)

def observe (rt : GeneratedInputDeliveryRuntime Submission) :
    Operation Submission → Option Observation
  | .confirmProviderSubmission sessionId epoch sequence _
  | .confirmProviderProgress sessionId epoch sequence
  | .confirmProviderQueueProgress sessionId epoch sequence =>
    (rt.deliveries.lookup sessionId).map fun d => ⟨d.cancelSubmit, epoch, sequence⟩
  | _ => none

structure FreshIn (rt : GeneratedInputDeliveryRuntime Submission)
    (record : GeneratedInputDelivery Submission) : Prop where
  id : record.id = rt.nextId
  cancelSubmit : record.cancelSubmit = rt.cells.length
  pasteStarted : record.pasteStarted = rt.cells.length + 1
  submitReceiptedSignal : record.submitReceiptedSignal = rt.cells.length + 2
  sound : record.Sound
  unconfirmed : record.state.isConfirmation = false
  nothingKept : record.providerConfirmation = none

def Operation.inserts : Operation Submission → Option String
  | .begin sessionId .. => some sessionId
  | .blockForUnavailableComposer sessionId .. => some sessionId
  | _ => none

inductive Effect (seen : Nat → Nat → Nat → Prop) (target : Option String)
    (rt rt' : GeneratedInputDeliveryRuntime Submission) : Prop where
  | kept (deliveries : rt'.deliveries = rt.deliveries) (order : rt'.order = rt.order)
      (nextId : rt'.nextId = rt.nextId) (cells : rt'.cells.length = rt.cells.length)
  | evolved (sessionId : String) (d next : GeneratedInputDelivery Submission)
      (found : rt.deliveries.lookup sessionId = some d)
      (evolution : Evolution (seen d.cancelSubmit) d next)
      (deliveries : rt'.deliveries = rt.deliveries.insert sessionId next)
      (order : rt'.order = rt.order) (nextId : rt'.nextId = rt.nextId)
      (cells : rt'.cells.length = rt.cells.length)
  | created (sessionId : String) (victim : Option String)
      (record : GeneratedInputDelivery Submission) (inserts : target = some sessionId)
      (idle : ∀ d, rt.deliveries.lookup sessionId = some d → d.state.isActive = false)
      (evicted : ∀ other, victim = some other → rt.evictable other = true ∧ other ≠ sessionId)
      (room : sessionId ∈ rt.deliveries ∨
        (rt.forget victim).deliveries.keys.length < maxRuntimeDeliveries)
      (deliveries : rt'.deliveries = (rt.forget victim).deliveries.insert sessionId record)
      (order : rt'.order =
        ((rt.forget victim).order.filter fun candidate => candidate ≠ sessionId) ++ [sessionId])
      (fresh : FreshIn rt record) (nextId : rt'.nextId = saturatingAdd rt.nextId 1)
      (cells : rt'.cells.length = rt.cells.length + 3)

@[simp] theorem store_length (cells : List Bool) (address : Nat) :
    (store cells address).length = cells.length := by
  simp [store]

theorem storeAll_spec (addresses : List Nat) : ∀ rt : GeneratedInputDeliveryRuntime Submission,
      (addresses.foldl storeCell rt).deliveries = rt.deliveries ∧
      (addresses.foldl storeCell rt).order = rt.order ∧
      (addresses.foldl storeCell rt).nextId = rt.nextId ∧
      (addresses.foldl storeCell rt).cells.length = rt.cells.length := by
  induction addresses with
  | nil => intro rt; exact ⟨rfl,rfl,rfl,rfl⟩
  | cons address rest ih =>
    intro rt
    simpa [storeCell] using ih (rt.storeCell address)

theorem evictable_spec (h : rt.evictable sid) :
    ∃ d, rt.deliveries.lookup sid = some d ∧ d.state.isActive = false := by
  unfold evictable at h
  split at h
  · rename_i d hit
    exact ⟨d,hit,by simpa using h⟩
  · cases h

theorem mem_of_lookup (hit : rt.deliveries.lookup sid = some d) : sid ∈ rt.deliveries := by
  rw [← AList.lookup_isSome, hit]
  rfl

theorem forget_evicted_length (here : other ∈ rt.deliveries) :
    (rt.forget (some other)).deliveries.keys.length = rt.deliveries.keys.length - 1 := by
  simp only [forget, AList.keys_erase]
  exact length_erase_of_mem (AList.mem_keys.mp here)

section Calls
variable (rt base) (sid) (epoch baseline : Nat) (sub : Submission)
  (settlement : GeneratedInputSettlement) (cause : GeneratedInputDeliveryCancelCause)
  (notification : Option String) (answers : TerminalAnswers) (event : GeneratedInputRuntimeEvent)

theorem makeRoom_spec (full : rt.deliveries.keys.length ≤ maxRuntimeDeliveries) :
    ∃ victim, (rt.makeRoom sid).1 = rt.forget victim ∧
      (∀ other, victim = some other → rt.evictable other ∧ other ≠ sid) ∧
      ((rt.makeRoom sid).2 → sid ∈ rt.deliveries ∨
        (rt.forget victim).deliveries.keys.length < maxRuntimeDeliveries) ∧
      ((rt.makeRoom sid).2 = false → victim = none) := by
  unfold makeRoom
  split
  · rename_i replacing
    exact ⟨none,rfl,by simp,fun _ => .inl (AList.lookup_isSome.mp replacing),by simp⟩
  rename_i absent
  by_cases crowded : rt.deliveries.keys.length ≥ maxRuntimeDeliveries
  · refine ⟨rt.order.find? rt.evictable,by simp [crowded, evictOldestTerminalDelivery],?_,?_,?_⟩
    · intro other hit
      have idle := find?_some hit
      refine ⟨idle,?_⟩
      rintro rfl
      obtain ⟨d,here,_⟩ := evictable_spec idle
      exact absent (by rw [here]; rfl)
    · intro room
      exact .inr (by simpa [crowded, evictOldestTerminalDelivery] using room)
    · intro none_left
      cases hit : rt.order.find? rt.evictable with
      | none => rfl
      | some other =>
        obtain ⟨d,here,_⟩ := evictable_spec (find?_some hit)
        have shorter := forget_evicted_length (mem_of_lookup here)
        simp only [crowded, ↓reduceIte, evictOldestTerminalDelivery, hit, shorter,
          decide_eq_false_iff_not] at none_left
        simp only [maxRuntimeDeliveries] at *
        omega
  · refine ⟨none,by simp [crowded, forget],by simp,?_,by simp⟩
    intro _
    exact .inr (by simpa [forget] using Nat.lt_of_not_le crowded)

/-- What `begin` may still do to the record it has inserted. -/
def Settled (record next : GeneratedInputDelivery Submission) : Prop :=
  next = record ∨ ∃ failure, next = record.failImmediately failure

/-- `rt'` has the registry of `rt` with the record of one session settled. -/
structure Settles (rt rt' : GeneratedInputDeliveryRuntime Submission) (sessionId : String)
    (record next : GeneratedInputDelivery Submission) : Prop where
  settled : Settled record next
  deliveries : rt'.deliveries.lookup sessionId = some next ∧
    (rt'.deliveries = rt.deliveries ∨ rt'.deliveries = rt.deliveries.insert sessionId next)
  order : rt'.order = rt.order
  nextId : rt'.nextId = rt.nextId
  cells : rt'.cells.length = rt.cells.length

variable {rt base sid} in
theorem failSession_settles (hit : rt.deliveries.lookup sid = some record)
    (failure : GeneratedInputDeliveryFailure) (deliveries : rt.deliveries = base.deliveries)
    (order : rt.order = base.order) (nextId : rt.nextId = base.nextId)
    (cells : rt.cells.length = base.cells.length) :
    Settles base (rt.failSession sid failure) sid record (record.failImmediately failure) := by
  simp only [failSession, hit]
  refine ⟨.inr ⟨failure,rfl⟩,⟨?_,?_⟩,order,nextId,cells⟩
  · exact AList.lookup_insert _
  · right
    simp only [put, deliveries]

variable {rt sid} in
theorem startTransport_settles (hit : rt.deliveries.lookup sid = some record) (pasteStarted : Nat) :
    ∃ next, Settles rt (rt.startTransport sid pasteStarted settlement answers).1
      sid record next := by
  have started : Settles rt rt sid record record :=
    ⟨.inl rfl,⟨hit,.inl rfl⟩,rfl,rfl,rfl⟩
  have pasted : Settles rt (rt.storeCell pasteStarted) sid record record :=
    ⟨.inl rfl,⟨hit,.inl rfl⟩,rfl,rfl,store_length _ _⟩
  have stopped (failure) :
      Settles rt (rt.failSession sid failure) sid record (record.failImmediately failure) :=
    failSession_settles hit failure rfl rfl rfl rfl
  have stoppedPasted (failure) :
      Settles rt ((rt.storeCell pasteStarted).failSession sid failure) sid record
        (record.failImmediately failure) := by
    have still : (rt.storeCell pasteStarted).deliveries.lookup sid = some record := hit
    exact failSession_settles still failure rfl rfl rfl (store_length _ _)
  unfold startTransport
  split
  · exact ⟨_,stopped _⟩
  split
  · split
    · exact ⟨_,started⟩
    · exact ⟨_,stopped _⟩
  split
  · exact ⟨_,stopped _⟩
  simp only
  split
  · exact ⟨_,stoppedPasted _⟩
  split
  · exact ⟨_,pasted⟩
  · exact ⟨_,stoppedPasted _⟩

variable {rt} in
theorem settled_fresh (fresh : FreshIn rt record) (settled : Settled record next) :
    FreshIn rt next := by
  rcases settled with rfl | ⟨failure,rfl⟩
  · exact fresh
  refine ⟨fresh.id,fresh.cancelSubmit,fresh.pasteStarted,fresh.submitReceiptedSignal,?_,rfl,
    fresh.nothingKept⟩
  constructor
  · simp [failImmediately, recordDeliveryFailure, GeneratedInputDeliveryState.isFailing]
  · intro _
    exact original_present _ failure

theorem blockedRecord_fresh :
    FreshIn rt (blockedRecord epoch baseline sub cause notification rt.nextId
      rt.cells.length (rt.cells.length + 1) (rt.cells.length + 2)) :=
  ⟨rfl,rfl,rfl,rfl,by simp [Sound, blockedRecord, GeneratedInputDeliveryState.isFailing],rfl,rfl⟩

theorem forget_frame (victim : Option String) :
    (rt.forget victim).nextId = rt.nextId ∧ (rt.forget victim).cells = rt.cells := by
  cases victim <;> exact ⟨rfl,rfl⟩

variable {rt base sid} in
theorem create_effect {mk : Nat → Nat → Nat → Nat → GeneratedInputDelivery Submission}
    (idle : ∀ d, rt.deliveries.lookup sid = some d → d.state.isActive = false)
    (evicted : ∀ other, victim = some other → rt.evictable other ∧ other ≠ sid)
    (room : sid ∈ rt.deliveries ∨ (rt.forget victim).deliveries.keys.length <
      maxRuntimeDeliveries) (baseDeliveries : ∀ d, base.deliveries.insert sid d =
      (rt.forget victim).deliveries.insert sid d)
    (baseOrder : base.order = (rt.forget victim).order) (baseId : base.nextId = rt.nextId)
    (baseCells : base.cells.length = rt.cells.length)
    (fresh : FreshIn rt (mk rt.nextId rt.cells.length (rt.cells.length + 1) (rt.cells.length + 2)))
    (settles : Settles (base.create sid cancelled mk)
      rt' sid (mk rt.nextId rt.cells.length (rt.cells.length + 1) (rt.cells.length + 2)) next) :
    Effect seen (some sid) rt rt' := by
  refine Effect.created sid victim next rfl idle evicted room ?_ ?_
    (settled_fresh fresh settles.settled) ?_ ?_
  · rcases settles.deliveries with ⟨held,same | inserted⟩
    · have inserted : rt'.deliveries.lookup sid =
          some (mk rt.nextId rt.cells.length (rt.cells.length + 1) (rt.cells.length + 2)) := by
        rw [same]
        simp [create, baseId, baseCells]
      have unchanged := Option.some.inj (held.symm.trans inserted)
      rw [same, unchanged, ← baseDeliveries]
      simp [create, baseId, baseCells]
    · rw [inserted, ← baseDeliveries]
      exact AList.insert_insert _
  · rw [settles.order, create, baseOrder]
  · rw [settles.nextId, create, baseId]
  · rw [settles.cells, create]
    simp [baseCells]

theorem acceptsReplacement_idle {st : GeneratedInputDeliveryState}
    (accepts : st.acceptsReplacement) : st.isActive = false := by
  cases st <;> first | rfl | cases accepts

variable {rt sid epoch} in
theorem canBegin_idle (admitted : rt.canBeginPendingSubmission sid epoch)
    (d : GeneratedInputDelivery Submission) (hit : rt.deliveries.lookup sid = some d) :
    d.state.isActive = false := by
  simp only [canBeginPendingSubmission, hit, Bool.and_eq_true, Bool.or_eq_true] at admitted
  rcases admitted.2 with accepts | unwritten
  · exact acceptsReplacement_idle accepts
  · simp only [unwrittenBlock, Bool.and_eq_true, decide_eq_true_eq] at unwritten
    rw [unwritten.1.1]
    rfl

theorem beginAdmitted_effect (full : rt.deliveries.keys.length ≤ maxRuntimeDeliveries)
    (idle : ∀ d, rt.deliveries.lookup sid = some d → d.state.isActive = false) :
    Effect seen (some sid) rt (rt.beginAdmitted sid epoch baseline sub settlement answers).1 := by
  obtain ⟨victim,shape,evicted,room,none_left⟩ := makeRoom_spec rt sid full
  obtain ⟨nextId,cells⟩ := forget_frame rt victim
  unfold beginAdmitted
  simp only
  split
  · rename_i has_room
    rw [shape]
    have hit : ((rt.forget victim).create sid false (beginRecord epoch baseline sub
        settlement answers.userInputActivity
        (rt.inheritedUnwrittenBlock sid epoch))).deliveries.lookup sid = some _ :=
      AList.lookup_insert _
    obtain ⟨next,settles⟩ :=
      startTransport_settles settlement answers hit ((rt.forget victim).cells.length + 1)
    rw [nextId, cells] at settles
    rw [cells]
    exact create_effect idle evicted (room has_room) (fun _ => rfl) rfl nextId (by rw [cells])
      ⟨rfl,rfl,rfl,rfl,by simp [Sound, beginRecord, GeneratedInputDeliveryState.isFailing],rfl,rfl⟩
      settles
  · rename_i no_room
    have stays := none_left (by simpa using no_room)
    rw [shape, stays]
    exact Effect.kept rfl rfl rfl rfl

variable {rt base} in
theorem Effect.rebase (deliveries : base.deliveries = rt.deliveries) (order : base.order = rt.order)
    (nextId : base.nextId = rt.nextId) (cells : base.cells.length = rt.cells.length)
    (effect : Effect seen target base rt') : Effect seen target rt rt' := by
  have forgotten (victim) : (base.forget victim).deliveries = (rt.forget victim).deliveries ∧
      (base.forget victim).order = (rt.forget victim).order := by
    cases victim <;> simp [forget, deliveries, order]
  cases effect with
  | kept d o n c =>
    exact .kept (d.trans deliveries) (o.trans order) (n.trans nextId) (c.trans cells)
  | evolved sid d next hit evolution dd o n c =>
    exact .evolved sid d next (deliveries ▸ hit) evolution (deliveries ▸ dd) (o.trans order)
      (n.trans nextId) (c.trans cells)
  | created sid victim record inserts idle evicted room dd o fresh n c =>
    refine .created sid victim record inserts (deliveries ▸ idle) ?_ ?_ ?_ ?_ ?_
      (by rw [n, nextId]) (by rw [c, cells])
    · intro other chosen
      simpa only [evictable, deliveries] using evicted other chosen
    · simpa only [deliveries, (forgotten victim).1] using room
    · rw [dd, (forgotten victim).1]
    · rw [o, (forgotten victim).2]
    · exact ⟨fresh.id.trans nextId,fresh.cancelSubmit.trans cells,by rw [fresh.pasteStarted, cells],
        by rw [fresh.submitReceiptedSignal, cells],fresh.sound,fresh.unconfirmed,fresh.nothingKept⟩

theorem begin_effect (meanwhile : List Nat)
    (full : rt.deliveries.keys.length ≤ maxRuntimeDeliveries) :
    Effect seen (some sid) rt (rt.begin sid epoch baseline sub settlement answers meanwhile).1 := by
  unfold GeneratedInputDeliveryRuntime.begin
  split
  · rename_i admitted
    obtain ⟨deliveries,order,nextId,cells⟩ := storeAll_spec meanwhile rt
    refine Effect.rebase deliveries order nextId cells
      (beginAdmitted_effect _ sid epoch baseline sub settlement answers ?_ ?_)
    · rw [deliveries]
      exact full
    · rw [deliveries]
      exact canBegin_idle admitted
  · exact Effect.kept rfl rfl rfl rfl

theorem insertBlocked_effect (full : rt.deliveries.keys.length ≤ maxRuntimeDeliveries)
    (idle : ∀ d, rt.deliveries.lookup sid = some d → d.state.isActive = false)
    (same : base = rt ∨ sid ∈ rt.deliveries ∧ ∃ d, base.deliveries =
      rt.deliveries.insert sid d ∧ base.order = rt.order ∧ base.nextId = rt.nextId ∧
      base.cells.length = rt.cells.length) :
    Effect seen (some sid) rt (base.insertBlocked sid epoch baseline sub cause notification).1 := by
  have fresh := blockedRecord_fresh rt epoch baseline sub cause
    (notification.map boundedNotificationType)
  unfold insertBlocked
  simp only
  rcases same with rfl | ⟨here,d,deliveries,order,nextId,cells⟩
  · obtain ⟨victim,shape,evicted,room,none_left⟩ := makeRoom_spec base sid full
    obtain ⟨nextId,cells⟩ := forget_frame base victim
    split
    · rename_i has_room
      rw [shape]
      refine create_effect idle evicted (room has_room) (fun _ => rfl) rfl nextId (by rw [cells])
        fresh ⟨.inl rfl,⟨?_,.inl rfl⟩,rfl,rfl,rfl⟩
      simp [create, nextId, cells]
    · rename_i no_room
      rw [shape, none_left (by simpa using no_room)]
      exact Effect.kept rfl rfl rfl rfl
  · -- The record of this session is still there, so the room is its own.
    have stays : base.makeRoom sid = (base, true) := by
      simp [makeRoom, deliveries]
    rw [stays]
    simp only [↓reduceIte]
    have nobody : ∀ other, (none : Option String) = some other →
        rt.evictable other ∧ other ≠ sid := by simp
    refine create_effect idle nobody (.inl here) ?_ order nextId cells fresh
      ⟨.inl rfl,⟨?_,.inl rfl⟩,rfl,rfl,rfl⟩
    · intro record
      rw [deliveries]
      exact AList.insert_insert _
    · simp [create, nextId, cells]

variable {rt base sid} in
theorem put_effect (hit : rt.deliveries.lookup sid = some d)
    (evolution : Evolution (seen d.cancelSubmit) d next)
    (deliveries : base.deliveries = rt.deliveries) (order : base.order = rt.order)
    (nextId : base.nextId = rt.nextId) (cells : base.cells.length = rt.cells.length) :
    Effect seen target rt (base.put sid next) :=
  .evolved sid d next hit evolution (by simp only [put, deliveries]) order nextId cells

theorem blockForUnavailableComposer_effect
    (full : rt.deliveries.keys.length ≤ maxRuntimeDeliveries) :
    Effect seen (some sid) rt
      (rt.blockForUnavailableComposer sid epoch baseline sub cause notification).1 := by
  unfold blockForUnavailableComposer
  split
  · rename_i d hit
    split
    · exact Effect.kept rfl rfl rfl rfl
    split
    · rename_i writing
      exact put_effect hit (blockWriting_evolution cause _ writing) rfl rfl rfl (store_length _ _)
    split
    · exact Effect.kept rfl rfl rfl rfl
    rename_i accepts
    have idle : ∀ other, rt.deliveries.lookup sid = some other → other.state.isActive = false := by
      intro other held
      rw [hit] at held
      cases held
      exact acceptsReplacement_idle (by simpa using accepts)
    exact insertBlocked_effect rt _ sid epoch baseline sub cause notification
      full idle (.inr ⟨mem_of_lookup hit,d.signalProviderAck,rfl,rfl,rfl,store_length _ _⟩)
  · rename_i absent
    have idle : ∀ other, rt.deliveries.lookup sid = some other → other.state.isActive = false := by
      intro other held
      rw [absent] at held
      cases held
    exact insertBlocked_effect rt rt sid epoch baseline sub cause notification full idle (.inl rfl)

theorem applyTransportEvent_effect : Effect seen target rt (rt.applyTransportEvent event).1 := by
  unfold applyTransportEvent
  split
  · exact Effect.kept rfl rfl rfl rfl
  rename_i d hit
  split
  · exact Effect.kept rfl rfl rfl rfl
  have merged : Evolution (seen d.cancelSubmit) d (d.mergeTransportDiagnostics event.diagnostics) :=
    .of_quiet rfl ⟨rfl,rfl⟩ rfl fun h => h
  have frame : ∀ next, Evolution (seen d.cancelSubmit) d next → Effect seen target rt
      ((if event.diagnostics.submitReceipted then rt.storeCell d.submitReceiptedSignal
        else rt).put event.sessionId next) := by
    intro next evolution
    split
    · exact put_effect hit evolution rfl rfl rfl (store_length _ _)
    · exact put_effect hit evolution rfl rfl rfl rfl
  simp only
  split
  · exact frame _ merged
  rename_i next applied
  exact frame next (merged.trans (applyOutcome_evolution applied) rfl)

theorem perform_effect (op : Operation Submission)
    (full : rt.deliveries.keys.length ≤ maxRuntimeDeliveries)
    (received : ∀ o, observe rt op = some o → seen o.record o.epoch o.sequence) :
    (∃ sid, op = .removeSession sid) ∨ Effect seen op.inserts rt (perform rt op) := by
  by_cases removal : ∃ sid, op = .removeSession sid
  · exact .inl removal
  right
  cases op with
  | begin sid epoch baseline sub settlement answers meanwhile =>
    exact begin_effect rt sid epoch baseline sub settlement answers meanwhile full
  | blockForUnavailableComposer sid epoch baseline sub cause notification =>
    exact blockForUnavailableComposer_effect rt sid epoch baseline sub cause notification full
  | transitionRuntimeEpoch sid epoch =>
    simp only [perform, transitionRuntimeEpoch]
    split
    · exact Effect.kept rfl rfl rfl rfl
    rename_i d hit
    split
    · exact Effect.kept rfl rfl rfl rfl
    · exact put_effect hit (transitionEpoch_evolution d epoch) rfl rfl rfl (store_length _ _)
  | applyTransportEvent event => exact applyTransportEvent_effect rt event
  | confirmProviderSubmission sid epoch seq activity =>
    simp only [perform, confirmProviderSubmission]
    split
    · exact Effect.kept rfl rfl rfl rfl
    rename_i d hit
    have here := received ⟨d.cancelSubmit,epoch,seq⟩ (by simp [observe, hit])
    exact put_effect hit (confirmSubmission_evolution d _ activity here) rfl rfl rfl rfl
  | confirmProviderProgress sid epoch seq =>
    simp only [perform, confirmProviderProgress]
    split
    · exact Effect.kept rfl rfl rfl rfl
    rename_i d hit
    have evolution : Evolution (seen d.cancelSubmit) d (d.confirmProgress epoch seq).1 :=
      confirmProgress_evolution d epoch seq
    simp only
    split
    · exact put_effect hit evolution rfl rfl rfl (store_length _ _)
    · exact put_effect hit evolution rfl rfl rfl rfl
  | confirmProviderQueueProgress sid epoch seq =>
    simp only [perform, confirmProviderQueueProgress]
    split
    · exact Effect.kept rfl rfl rfl rfl
    rename_i d hit
    have here := received ⟨d.cancelSubmit,epoch,seq⟩ (by simp [observe, hit])
    exact put_effect hit (confirmQueueProgress_evolution d _ here) rfl rfl rfl rfl
  | removeSession sid => exact absurd ⟨sid,rfl⟩ removal
  | workerStore address => exact Effect.kept rfl rfl rfl (store_length _ _)

def KeepsFlags (cells cells' : List Bool) : Prop :=
  ∀ address, load cells address = true → load cells' address = true

theorem keepsFlags_refl (cells : List Bool) : KeepsFlags cells cells := fun _ h => h

theorem keepsFlags_store (cells : List Bool) (address : Nat) :
    KeepsFlags cells (store cells address) := by
  intro other raised
  simp only [load, store, getD_eq_getElem?_getD] at *
  by_cases same : address = other
  · subst same
    by_cases inside : address < cells.length
    · simp [inside]
    · simp [List.getElem?_eq_none (Nat.le_of_not_lt inside)] at raised
  · rwa [getElem?_set_ne same]

theorem keepsFlags_append (cells more : List Bool) : KeepsFlags cells (cells ++ more) := by
  intro address raised
  have inside : address < cells.length := by
    by_contra outside
    simp [load, getD_eq_getElem?_getD, List.getElem?_eq_none (Nat.le_of_not_lt outside)] at raised
  simpa [load, getD_eq_getElem?_getD, getElem?_append_left inside] using raised

theorem failSession_cells (failure : GeneratedInputDeliveryFailure) :
    (rt.failSession sid failure).cells = rt.cells := by
  unfold failSession
  split <;> rfl

theorem startTransport_cells (pasteStarted : Nat) :
    (rt.startTransport sid pasteStarted settlement answers).1.cells = rt.cells ∨
      (rt.startTransport sid pasteStarted settlement answers).1.cells =
        store rt.cells pasteStarted := by
  unfold startTransport
  split
  · exact .inl (failSession_cells _ _ _)
  split
  · split
    · exact .inl rfl
    · exact .inl (failSession_cells _ _ _)
  split
  · exact .inl (failSession_cells _ _ _)
  simp only
  split
  · exact .inr (failSession_cells _ _ _)
  split
  · exact .inr rfl
  · exact .inr (failSession_cells _ _ _)

theorem makeRoom_cells : (rt.makeRoom sid).1.cells = rt.cells := by
  unfold makeRoom
  split
  · rfl
  simp only
  split
  · exact (forget_frame rt _).2
  · rfl

theorem beginAdmitted_keepsFlags : KeepsFlags rt.cells
      (rt.beginAdmitted sid epoch baseline sub settlement answers).1.cells := by
  have room := makeRoom_cells rt sid
  unfold beginAdmitted
  simp only
  split
  · intro address raised
    have grown := keepsFlags_append rt.cells [false, false, false] address raised
    rcases startTransport_cells ((rt.makeRoom sid).1.create sid false
        (beginRecord epoch baseline sub settlement answers.userInputActivity
          (rt.inheritedUnwrittenBlock sid epoch))) sid settlement answers
        ((rt.makeRoom sid).1.cells.length + 1) with same | stored
    · rw [same]
      simpa [create, room] using grown
    · rw [stored]
      apply keepsFlags_store
      simpa [create, room] using grown
  · rw [room]
    exact keepsFlags_refl _

theorem insertBlocked_keepsFlags : KeepsFlags rt.cells
      (rt.insertBlocked sid epoch baseline sub cause notification).1.cells := by
  have room := makeRoom_cells rt sid
  unfold insertBlocked
  simp only
  split
  · simp only [create, room]
    exact keepsFlags_append _ _
  · rw [room]
    exact keepsFlags_refl _

theorem blockForUnavailableComposer_keepsFlags : KeepsFlags rt.cells
      (rt.blockForUnavailableComposer sid epoch baseline sub cause notification).1.cells := by
  unfold blockForUnavailableComposer
  split
  · rename_i d hit
    have stored := keepsFlags_store rt.cells d.cancelSubmit
    split
    · exact keepsFlags_refl _
    split
    · exact stored
    split
    · exact keepsFlags_refl _
    intro address raised
    exact insertBlocked_keepsFlags _ sid epoch baseline sub cause notification
      address (stored address raised)
  · exact insertBlocked_keepsFlags rt sid epoch baseline sub cause notification

theorem applyTransportEvent_keepsFlags : KeepsFlags rt.cells (rt.applyTransportEvent event).1.cells := by
  unfold applyTransportEvent
  split
  · exact keepsFlags_refl _
  rename_i d hit
  split
  · exact keepsFlags_refl _
  have merged : KeepsFlags rt.cells (if event.diagnostics.submitReceipted then
      rt.storeCell d.submitReceiptedSignal else rt).cells := by
    split
    · exact keepsFlags_store _ _
    · exact keepsFlags_refl _
  simp only
  split <;> exact merged

theorem storeAll_keepsFlags (addresses : List Nat) :
    ∀ rt : GeneratedInputDeliveryRuntime Submission,
      KeepsFlags rt.cells (addresses.foldl storeCell rt).cells := by
  induction addresses with
  | nil => intro rt; exact keepsFlags_refl _
  | cons address rest ih =>
    intro rt other raised
    exact ih (rt.storeCell address) other (keepsFlags_store rt.cells address other raised)

theorem perform_keepsFlags (op : Operation Submission) : KeepsFlags rt.cells (perform rt op).cells := by
  cases op with
  | begin sid epoch baseline sub settlement answers meanwhile =>
    simp only [perform, GeneratedInputDeliveryRuntime.begin]
    split
    · intro address raised
      exact beginAdmitted_keepsFlags _ sid epoch baseline sub settlement answers address
        (storeAll_keepsFlags meanwhile rt address raised)
    · exact keepsFlags_refl _
  | blockForUnavailableComposer sid epoch baseline sub cause notification =>
    exact blockForUnavailableComposer_keepsFlags rt sid epoch baseline sub cause notification
  | transitionRuntimeEpoch sid epoch =>
    simp only [perform, transitionRuntimeEpoch]
    iterate 2 (split; · exact keepsFlags_refl _)
    · exact keepsFlags_store _ _
  | applyTransportEvent event => exact applyTransportEvent_keepsFlags rt event
  | confirmProviderSubmission sid epoch seq activity =>
    simp only [perform, confirmProviderSubmission]
    split <;> exact keepsFlags_refl _
  | confirmProviderProgress sid epoch seq =>
    simp only [perform, confirmProviderProgress]
    split
    · exact keepsFlags_refl _
    simp only [put]
    split
    · exact keepsFlags_store _ _
    · exact keepsFlags_refl _
  | confirmProviderQueueProgress sid epoch seq =>
    simp only [perform, confirmProviderQueueProgress]
    split <;> exact keepsFlags_refl _
  | removeSession sid =>
    simp only [perform, removeSession]
    split
    · exact keepsFlags_store _ _
    · exact keepsFlags_refl _
  | workerStore address => exact keepsFlags_store _ _

end Calls
end TermloopDelivery
