import Termloop.AgentRuntime.DeliveryRuns

/-!
Core and the transport workers as parties of one system. A worker takes one
atomic access of a shared flag or one terminal call a step; Core's `begin` is
split at its two loads of `paste_started`, every other Core operation makes at
most one shared load and stays one step. Transport events reach Core with any
arguments, which covers those the workers send.
-/
namespace TermloopPasteRace
open TermloopRuns TermloopDelivery List
open GeneratedInputDelivery GeneratedInputDeliveryRuntime

variable {Submission : Type}

/-- Where a worker stands in `run_transport_delivery` and the retry loop after it. -/
inductive Place where
  | waitReady | readinessFailed | checkCancel | snapshotOutput | storePasteStarted | enqueuePaste
  | awaitReceipt | checkCancelAfterPaste | settle | checkCancelBeforeSubmit | submit | retry | finished

structure Worker where
  (cancelSubmit pasteStarted submitReceiptedSignal : Nat)
  place : Place

/-- How a terminal call or a wait ends; `again` is one more turn of a polling loop. -/
inductive Answer where
  | ok | again | err

/-- The worker's new place, the flags, and whether it enqueued the paste. -/
def Worker.advance (w : Worker) (cells : List Bool) (answer : Answer) : Worker × List Bool × Bool :=
  let cancelled := load cells w.cancelSubmit
  let goto place := ({ w with place := place }, cells, false)
  match w.place, answer with
  | .waitReady, .ok => goto .checkCancel
  | .waitReady, .again => goto (if cancelled then .readinessFailed else .waitReady)
  | .waitReady, .err => goto .readinessFailed
  | .readinessFailed, _ => goto .finished
  | .checkCancel, _ => goto (if cancelled then .finished else .snapshotOutput)
  | .snapshotOutput, .ok => goto .storePasteStarted
  | .snapshotOutput, _ => goto .finished
  | .storePasteStarted, _ =>
    ({ w with place := .enqueuePaste }, store cells w.pasteStarted, false)
  | .enqueuePaste, .ok => ({ w with place := .awaitReceipt }, cells, true)
  | .enqueuePaste, _ => goto .finished
  | .awaitReceipt, .ok => goto .checkCancelAfterPaste
  | .awaitReceipt, _ => goto .finished
  | .checkCancelAfterPaste, _ => goto (if cancelled then .finished else .settle)
  | .settle, .ok => goto .checkCancelBeforeSubmit
  | .settle, .again => goto (if cancelled then .finished else .settle)
  | .settle, .err => goto .finished
  | .checkCancelBeforeSubmit, _ => goto (if cancelled then .finished else .submit)
  | .submit, .ok => ({ w with place := .retry }, store cells w.submitReceiptedSignal, false)
  | .submit, .again => goto .submit
  | .submit, .err => goto .finished
  | .retry, .again => goto (if cancelled then .finished else .submit)
  | .retry, _ => goto .finished
  | .finished, _ => goto .finished

structure BeginCall (Submission : Type) where
  sessionId : String
  (epoch baseline : Nat)
  submission : Submission
  settlement : GeneratedInputSettlement
  answers : TerminalAnswers

/-- `queue` holds the pastes given to the input writer, by `cancel_submit` flag. -/
structure System (Submission : Type) where
  runtime : GeneratedInputDeliveryRuntime Submission
  beginning : Option (BeginCall Submission)
  workers : List Worker
  queue : List Nat

def System.start : System Submission := ⟨default, none, [], []⟩

inductive Action (Submission : Type) where
  | core (op : Operation Submission)
  | admitBegin (call : BeginCall Submission)
  | finishBegin
  | worker (index : Nat) (answer : Answer)

def atomicCall : Operation Submission → Bool
  | .begin .. => false
  | .workerStore _ => false
  | _ => true

/-- The thread of an accepted `begin`: it starts at the receipt of a prepared paste, or at
    the readiness wait. -/
def spawnedWorker (address : Nat) (pasted : Bool) : Worker :=
  ⟨address, address + 1, address + 2, if pasted then .awaitReceipt else .waitReady⟩

def System.completeBegin (s : System Submission) (call : BeginCall Submission) : System Submission :=
  let (rt, report) := s.runtime.beginAdmitted call.sessionId call.epoch call.baseline
    call.submission call.settlement call.answers
  let address := s.runtime.cells.length
  { runtime := rt, beginning := none
    workers := if report.worker then s.workers ++ [spawnedWorker address report.pasted] else s.workers
    queue := if report.pasted then s.queue ++ [address] else s.queue }

def step (s : System Submission) : Action Submission → Option (System Submission)
  | .core op =>
    if s.beginning.isNone && atomicCall op then some { s with runtime := perform s.runtime op }
    else none
  | .admitBegin call =>
    if s.beginning.isNone && s.runtime.canBeginPendingSubmission call.sessionId call.epoch then
      some { s with beginning := some call }
    else none
  | .finishBegin => s.beginning.map s.completeBegin
  | .worker index answer =>
    (s.workers[index]?).map fun w =>
      let (next, cells, enqueued) := w.advance s.runtime.cells answer
      { s with
        runtime := { s.runtime with cells := cells }, workers := s.workers.set index next
        queue := if enqueued then s.queue ++ [w.cancelSubmit] else s.queue }

/-- The worker can still write its paste: it has loaded `cancel_submit` as false and not
    stored `paste_started`, or the flag is unset before that load. -/
def Worker.mayPaste (w : Worker) (cells : List Bool) : Bool :=
  match w.place with
  | .snapshotOutput | .storePasteStarted => true
  | .waitReady | .checkCancel => !load cells w.cancelSubmit
  | _ => false

def Worker.Silent (w : Worker) (cells : List Bool) : Prop :=
  w.place ≠ .enqueuePaste ∧ w.mayPaste cells = false

variable {w : Worker} {cells : List Bool} {rt : GeneratedInputDeliveryRuntime Submission}
  {s t : System Submission} {call : BeginCall Submission} {index delivery : Nat}

theorem silent_mono (keep : KeepsFlags cells cells') (silent : w.Silent cells)
    : w.Silent cells' := by
  obtain ⟨place,quiet⟩ := silent
  refine ⟨place,?_⟩
  unfold Worker.mayPaste at *
  split at quiet
  · cases quiet
  · cases quiet
  · simpa using keep w.cancelSubmit (by simpa using quiet)
  · simpa using keep w.cancelSubmit (by simpa using quiet)
  · rfl

theorem advance_keepsFlags (w : Worker) (cells : List Bool) (ans : Answer) :
    KeepsFlags cells (w.advance cells ans).2.1 ∧
      (w.advance cells ans).2.1.length = cells.length := by
  unfold Worker.advance
  split
  case h_8 => exact ⟨keepsFlags_store _ _,store_length _ _⟩
  case h_18 => exact ⟨keepsFlags_store _ _,store_length _ _⟩
  all_goals exact ⟨keepsFlags_refl _,rfl⟩

theorem advance_flags (w : Worker) (cells : List Bool) (ans : Answer) :
    (w.advance cells ans).1.cancelSubmit = w.cancelSubmit ∧
      (w.advance cells ans).1.pasteStarted = w.pasteStarted := by
  unfold Worker.advance
  split <;> exact ⟨rfl,rfl⟩

theorem silent_advance (ans : Answer) (silent : w.Silent cells) :
    (w.advance cells ans).1.Silent cells ∧ (w.advance cells ans).2.2 = false := by
  obtain ⟨place,quiet⟩ := silent
  cases here : w.place with
  | enqueuePaste => exact absurd here place
  | snapshotOutput | storePasteStarted => simp [Worker.mayPaste, here] at quiet
  | waitReady | checkCancel =>
    -- Before the load the flag is already set, so the load turns the worker away.
    have cancelled : load cells w.cancelSubmit := by
      simpa [Worker.mayPaste, here] using quiet
    cases ans <;> simp [Worker.Silent, Worker.mayPaste, Worker.advance, here, cancelled]
  | checkCancelAfterPaste | checkCancelBeforeSubmit =>
    by_cases cancelled : load cells w.cancelSubmit <;>
      simp [Worker.Silent, Worker.mayPaste, Worker.advance, here, cancelled]
  | settle | retry =>
    by_cases cancelled : load cells w.cancelSubmit <;> cases ans <;>
      simp [Worker.Silent, Worker.mayPaste, Worker.advance, here, cancelled]
  | readinessFailed | finished =>
    simp [Worker.Silent, Worker.mayPaste, Worker.advance, here]
  | awaitReceipt | submit =>
    cases ans <;> simp [Worker.Silent, Worker.mayPaste, Worker.advance, here]

structure Coherent (s : System Submission) : Prop where
  registered : Registered s.runtime
  layout : ∀ w ∈ s.workers, w.pasteStarted = w.cancelSubmit + 1 ∧
    w.pasteStarted < s.runtime.cells.length
  stored : ∀ w ∈ s.workers, w.place = .enqueuePaste → load s.runtime.cells w.pasteStarted = true
  admitted : ∀ call, s.beginning = some call → ∀ d,
    s.runtime.deliveries.lookup call.sessionId = some d → d.state.isActive = false

theorem registered_cells (inv : Registered rt) (length : cells.length = rt.cells.length) :
    Registered { rt with cells := cells } :=
  ⟨inv.orderNodup,inv.orderKeys,inv.bounded,fun sid d hit => by
    have below := inv.allocated sid d hit
    simp only
    omega,inv.layout,inv.sound⟩

theorem perform_registered (inv : Registered rt) (op : Operation Submission) :
    Registered (perform rt op) ∧ rt.cells.length ≤ (perform rt op).cells.length := by
  have cases : (∃ sid, op = .removeSession sid) ∨
      Effect (fun _ _ _ => True) op.inserts rt (perform rt op) :=
    perform_effect rt op inv.bounded (fun _ _ => trivial)
  rcases cases with ⟨removed,rfl⟩ | effect
  · exact ⟨removeSession_registered inv removed,by rw [perform, removeSession_cells]⟩
  · exact ⟨effect_registered inv effect,effect_cells effect⟩

theorem completeBegin_registered (inv : Coherent s) (pending : s.beginning = some call) :
    Registered (s.completeBegin call).runtime ∧
      s.runtime.cells.length ≤ (s.completeBegin call).runtime.cells.length := by
  have effect : Effect (fun _ _ _ => True) _ s.runtime (s.completeBegin call).runtime :=
    beginAdmitted_effect s.runtime call.sessionId call.epoch call.baseline call.submission
      call.settlement call.answers inv.registered.bounded (inv.admitted call pending)
  exact ⟨effect_registered inv.registered effect,effect_cells effect⟩

theorem completeBegin_keepsFlags (s : System Submission) (call : BeginCall Submission) :
    KeepsFlags s.runtime.cells (s.completeBegin call).runtime.cells :=
  beginAdmitted_keepsFlags s.runtime call.sessionId call.epoch call.baseline call.submission
    call.settlement call.answers

theorem beginAdmitted_spawned {sub : Submission} {settlement : GeneratedInputSettlement}
    (spawned : (rt.beginAdmitted sid epoch baseline sub settlement answers).2.worker) :
    (rt.beginAdmitted sid epoch baseline sub settlement answers).1.cells.length =
      rt.cells.length + 3 := by
  have room := makeRoom_cells rt sid
  unfold beginAdmitted at *
  simp only at *
  split at spawned
  · rename_i has_room
    rw [if_pos has_room]
    rcases startTransport_cells ((rt.makeRoom sid).1.create sid false
        (beginRecord epoch baseline sub settlement answers.userInputActivity
          (rt.inheritedUnwrittenBlock sid epoch))) sid settlement answers
        ((rt.makeRoom sid).1.cells.length + 1) with same | stored
    · rw [same]
      simp [create, room]
    · rw [stored]
      simp [create, room]
  · cases spawned

theorem completeBegin_workers (member : w ∈ (s.completeBegin call).workers) :
    w ∈ s.workers ∨ (∃ pasted, w = spawnedWorker s.runtime.cells.length pasted) ∧
      (s.completeBegin call).runtime.cells.length = s.runtime.cells.length + 3 := by
  simp only [System.completeBegin] at member ⊢
  split at member
  · rename_i spawned
    rcases mem_append.mp member with old | new
    · exact .inl old
    · exact .inr ⟨⟨_,mem_singleton.mp new⟩,beginAdmitted_spawned spawned⟩
  · exact .inl member

theorem completeBegin_queue (s : System Submission) (call : BeginCall Submission) :
    (s.completeBegin call).queue = s.queue ∨
      (s.completeBegin call).queue = s.queue ++ [s.runtime.cells.length] := by
  simp only [System.completeBegin]
  split
  · exact .inr rfl
  · exact .inl rfl

theorem advance_reaches_enqueue (here : (w.advance cells ans).1.place = .enqueuePaste) :
    (w.advance cells ans).2.1 = store cells w.pasteStarted := by
  unfold Worker.advance at *
  split at here
  case h_8 => rfl
  all_goals (simp only at here; try split at here)
  all_goals cases here

theorem canBegin_admits (taken : step s (.admitBegin call) = some t) :
    s.runtime.canBeginPendingSubmission call.sessionId call.epoch ∧
      s.beginning = none ∧ t = { s with beginning := some call } := by
  simp only [step] at taken
  split at taken
  · rename_i guard
    cases taken
    simp only [Bool.and_eq_true, Option.isNone_iff_eq_none] at guard
    exact ⟨guard.2,guard.1,rfl⟩
  · cases taken

theorem worker_step (taken : step s (.worker index ans) = some t) :
    ∃ w ∈ s.workers,
      t = { s with
        runtime := { s.runtime with cells := (w.advance s.runtime.cells ans).2.1 }
        workers := s.workers.set index (w.advance s.runtime.cells ans).1
        queue := if (w.advance s.runtime.cells ans).2.2 then s.queue ++ [w.cancelSubmit]
          else s.queue } := by
  simp only [step, Option.map_eq_some_iff] at taken
  obtain ⟨w,here,rfl⟩ := taken
  exact ⟨w,mem_of_getElem? here,rfl⟩

theorem step_coherent (s : System Submission) (a : Action Submission) (t : System Submission)
    (inv : Coherent s) (taken : Takes step s a t) : Coherent t := by
  unfold Takes at taken
  cases a with
  | core op =>
    simp only [step] at taken
    split at taken
    · rename_i guard
      cases taken
      obtain ⟨registered,grown⟩ := perform_registered inv.registered op
      have keep := perform_keepsFlags s.runtime op
      simp only [Bool.and_eq_true, Option.isNone_iff_eq_none] at guard
      refine ⟨registered,?_,?_,?_⟩
      · intro w member
        have old := inv.layout w member
        exact ⟨old.1,Nat.lt_of_lt_of_le old.2 grown⟩
      · exact fun w member place => keep _ (inv.stored w member place)
      · intro call pending
        rw [guard.1] at pending
        cases pending
    · cases taken
  | admitBegin call =>
    obtain ⟨admitted,_,rfl⟩ := canBegin_admits taken
    refine ⟨inv.registered,inv.layout,inv.stored,?_⟩
    intro other pending
    cases pending
    exact canBegin_idle admitted
  | finishBegin =>
    simp only [step, Option.map_eq_some_iff] at taken
    obtain ⟨call,pending,rfl⟩ := taken
    obtain ⟨registered,grown⟩ := completeBegin_registered inv pending
    have keep := completeBegin_keepsFlags s call
    refine ⟨registered,?_,?_,?_⟩
    · intro w member
      rcases completeBegin_workers member with old | ⟨⟨pasted,rfl⟩,cells⟩
      · have pre := inv.layout w old
        exact ⟨pre.1,Nat.lt_of_lt_of_le pre.2 grown⟩
      · refine ⟨rfl,?_⟩
        simp only [spawnedWorker]
        omega
    · intro w member place
      rcases completeBegin_workers member with old | ⟨⟨pasted,rfl⟩,_⟩
      · exact keep _ (inv.stored w old place)
      · cases pasted <;> cases place
    · intro other pending
      cases pending
  | worker index ans =>
    obtain ⟨w,member,rfl⟩ := worker_step taken
    obtain ⟨keep,length⟩ := advance_keepsFlags w s.runtime.cells ans
    have flags := advance_flags w s.runtime.cells ans
    refine ⟨registered_cells inv.registered length,?_,?_,inv.admitted⟩
    · intro v here
      simp only [length]
      rcases mem_or_eq_of_mem_set here with old | rfl
      · exact inv.layout v old
      · rw [flags.1, flags.2]
        exact inv.layout w member
    · intro v here place
      rcases mem_or_eq_of_mem_set here with old | rfl
      · exact keep _ (inv.stored v old place)
      · simp only [advance_reaches_enqueue place, flags.2]
        simp [load, store, getD_eq_getElem?_getD, (inv.layout w member).2]

theorem start_coherent : Coherent (System.start : System Submission) where
  registered := default_registered
  layout := by simp [System.start]
  stored := by simp [System.start]
  admitted := by simp [System.start]

/-- Every worker of the delivery is silent, and no later worker can be of it. -/
structure Quiet (delivery : Nat) (s : System Submission) : Prop where
  allocated : delivery < s.runtime.cells.length
  silent : ∀ w ∈ s.workers, w.cancelSubmit = delivery → w.Silent s.runtime.cells

theorem count_append_other (different : other ≠ delivery) :
    (queue ++ [other]).count delivery = queue.count delivery := by
  simp [count_append, different]

theorem step_quiet {a : Action Submission} (inv : Coherent s) (quiet : Quiet delivery s)
    (taken : Takes step s a t) :
    Quiet delivery t ∧ t.queue.count delivery = s.queue.count delivery := by
  have bound := quiet.allocated
  unfold Takes at taken
  cases a with
  | core op =>
    simp only [step] at taken
    split at taken
    · cases taken
      obtain ⟨_,grown⟩ := perform_registered inv.registered op
      refine ⟨⟨Nat.lt_of_lt_of_le bound grown,?_⟩,rfl⟩
      intro w member own
      exact silent_mono (perform_keepsFlags s.runtime op) (quiet.silent w member own)
    · cases taken
  | admitBegin call =>
    obtain ⟨_,_,rfl⟩ := canBegin_admits taken
    exact ⟨⟨bound,quiet.silent⟩,rfl⟩
  | finishBegin =>
    simp only [step, Option.map_eq_some_iff] at taken
    obtain ⟨call,pending,rfl⟩ := taken
    obtain ⟨_,grown⟩ := completeBegin_registered inv pending
    refine ⟨⟨Nat.lt_of_lt_of_le bound grown,?_⟩,?_⟩
    · intro w member own
      rcases completeBegin_workers member with old | ⟨⟨pasted,rfl⟩,_⟩
      · exact silent_mono (completeBegin_keepsFlags s call) (quiet.silent w old own)
      · simp only [spawnedWorker] at own
        omega
    · rcases completeBegin_queue s call with same | pasted
      · rw [same]
      · rw [pasted]
        exact count_append_other (by omega)
  | worker index ans =>
    obtain ⟨w,member,rfl⟩ := worker_step taken
    obtain ⟨keep,length⟩ := advance_keepsFlags w s.runtime.cells ans
    have flags := advance_flags w s.runtime.cells ans
    refine ⟨⟨by simpa only [length] using bound,?_⟩,?_⟩
    · intro v here own
      rcases mem_or_eq_of_mem_set here with old | rfl
      · exact silent_mono keep (quiet.silent v old own)
      · rw [flags.1] at own
        exact silent_mono keep (silent_advance ans (quiet.silent w member own)).1
    · by_cases own : w.cancelSubmit = delivery
      · simp only [(silent_advance ans (quiet.silent w member own)).2, Bool.false_eq_true,
          ↓reduceIte]
      · simp only
        split
        · exact count_append_other own
        · rfl

theorem run_quiet (inv : Coherent s) (quiet : Quiet delivery s)
    (run : Run (Takes step) s actions t) :
    t.queue.count delivery = s.queue.count delivery := by
  refine (run_invariant (fun u => Coherent u ∧ Quiet delivery u ∧
    u.queue.count delivery = s.queue.count delivery) ?_ run ⟨inv,quiet,rfl⟩).2.2
  intro u a v ⟨coherent,silent,count⟩ taken
  obtain ⟨next,same⟩ := step_quiet coherent silent taken
  exact ⟨step_coherent u a v coherent taken,next,same.trans count⟩

def PastesLater (delivery : Nat) (s : System Submission) : Prop :=
  ∃ actions t, Run (Takes step) s actions t ∧
    t.queue.count delivery = s.queue.count delivery + 1

section
variable (here : s.workers[index]? = some w)
include here

theorem pastesLater_of_step (next : Place)
    (advanced : w.advance s.runtime.cells .ok = ({ w with place := next }, cells, false))
    (later : ∀ t : System Submission, t.workers[index]? = some { w with place := next } →
      t.runtime.cells = cells → PastesLater { w with place := next }.cancelSubmit t) :
    PastesLater w.cancelSubmit s := by
  have inside : index < s.workers.length := (List.getElem?_eq_some_iff.mp here).1
  obtain ⟨actions,t,run,count⟩ := later { s with
    runtime := { s.runtime with cells := cells }
    workers := s.workers.set index { w with place := next } } (by simp [inside]) rfl
  refine ⟨.worker index .ok :: actions,t,Run.cons ?_ run,count⟩
  simp [Takes, step, here, advanced]

theorem pastesLater_enqueue (place : w.place = .enqueuePaste) : PastesLater w.cancelSubmit s := by
  refine ⟨[.worker index .ok],{ s with
    workers := s.workers.set index { w with place := .awaitReceipt }
    queue := s.queue ++ [w.cancelSubmit] },run_single ?_,?_⟩
  · simp [Takes, step, here, Worker.advance, place]
  · simp [count_append]

theorem pastesLater_store (place : w.place = .storePasteStarted) :
    PastesLater w.cancelSubmit s := by
  apply pastesLater_of_step here .enqueuePaste
  · simp [Worker.advance, place]
    rfl
  · exact fun t next _ => pastesLater_enqueue next rfl

theorem pastesLater_snapshot (place : w.place = .snapshotOutput) :
    PastesLater w.cancelSubmit s := by
  apply pastesLater_of_step here .storePasteStarted
  · simp [Worker.advance, place]
    rfl
  · exact fun t next _ => pastesLater_store next rfl

theorem pastesLater_check (place : w.place = .checkCancel)
    (unset : load s.runtime.cells w.cancelSubmit = false) : PastesLater w.cancelSubmit s := by
  apply pastesLater_of_step here .snapshotOutput
  · simp [Worker.advance, place, unset]
    rfl
  · exact fun t next _ => pastesLater_snapshot next rfl

theorem pastesLater_wait (place : w.place = .waitReady)
    (unset : load s.runtime.cells w.cancelSubmit = false) : PastesLater w.cancelSubmit s := by
  have advanced : w.advance s.runtime.cells .ok =
      ({ w with place := .checkCancel }, s.runtime.cells, false) := by
    simp [Worker.advance, place]
  refine pastesLater_of_step here _ advanced fun t next cells => pastesLater_check next rfl ?_
  rw [cells]
  exact unset

end

theorem pastesLater_of_mayPaste (member : w ∈ s.workers) (may : w.mayPaste s.runtime.cells) :
    PastesLater w.cancelSubmit s := by
  obtain ⟨index,here⟩ := mem_iff_getElem?.mp member
  unfold Worker.mayPaste at may
  split at may
  · rename_i place
    exact pastesLater_snapshot here place
  · rename_i place
    exact pastesLater_store here place
  · rename_i place
    exact pastesLater_wait here place (by simpa using may)
  · rename_i place
    exact pastesLater_check here place (by simpa using may)
  · cases may

/-- At every `begin` over an unwritten block, the blocked worker never pastes later exactly
    when it can no longer reach the write. -/
theorem unwritten_block_never_pastes_iff {actions : List (Action Submission)}
    {s t : System Submission} (run : Run (Takes step) System.start actions s)
    {call : BeginCall Submission} (admits : step s (.admitBegin call) = some t)
    {d : GeneratedInputDelivery Submission}
    (found : s.runtime.deliveries.lookup call.sessionId = some d)
    (unwritten : d.unwrittenBlock (load s.runtime.cells d.pasteStarted) = true) :
    (∀ later u, Run (Takes step) t later u →
      u.queue.count d.cancelSubmit = t.queue.count d.cancelSubmit) ↔
    ∀ w ∈ s.workers, w.cancelSubmit = d.cancelSubmit → w.mayPaste s.runtime.cells = false := by
  have inv := run_invariant Coherent (step_coherent _ _ _) run start_coherent
  obtain ⟨_,_,rfl⟩ := canBegin_admits admits
  constructor
  · intro never w member own
    by_contra may
    have inside : w ∈ { s with beginning := some call }.workers := member
    obtain ⟨later,u,continued,count⟩ := pastesLater_of_mayPaste inside (by simpa using may)
    have same := never later u continued
    rw [own] at count
    omega
  · intro silent later u continued
    have coherent := step_coherent _ _ _ inv admits
    refine run_quiet coherent ⟨inv.registered.allocated call.sessionId d found,?_⟩ continued
    intro w member own
    refine ⟨?_,silent w member own⟩
    -- A worker at the write has stored `paste_started`, which was loaded as unset.
    intro place
    have stored := inv.stored w member place
    rw [(inv.layout w member).1, own, ← inv.registered.layout call.sessionId d found] at stored
    simp [unwrittenBlock, stored] at unwritten

def composerCall : BeginCall Nat :=
  ⟨"session", 1, 0, 7, .composerRender, ⟨some ⟨0, 0⟩, true, true, true, true⟩⟩

def composerBlock : Operation Nat :=
  .blockForUnavailableComposer "session" 1 0 7 .permissionRequested none

/-- Cancelled while it waits for the composer, the worker stays silent for ever. -/
theorem unwritten_block_cancelled_in_wait :
    ∃ s t, execute step System.start [.admitBegin composerCall, .finishBegin, .core composerBlock] =
        some s ∧ step s (.admitBegin composerCall) = some t ∧ s.workers.length = 1 ∧
      ∀ later u, Run (Takes step) t later u → u.queue.count 0 = t.queue.count 0 := by
  obtain ⟨s,t,d,done,admits,found,unwritten,silent,one⟩ : ∃ s t d,
      execute step System.start [.admitBegin composerCall, .finishBegin, .core composerBlock] =
        some s ∧ step s (.admitBegin composerCall) = some t ∧
      s.runtime.deliveries.lookup "session" = some d ∧
      d.unwrittenBlock (load s.runtime.cells d.pasteStarted) = true ∧
      (d.cancelSubmit = 0 ∧ s.workers = [⟨0,1,2,.waitReady⟩]) ∧
      load s.runtime.cells 0 = true := ⟨_,_,_,rfl,rfl,rfl,rfl,⟨rfl,rfl⟩,rfl⟩
  refine ⟨s,t,done,admits,by rw [silent.2]; rfl,?_⟩
  have never := (unwritten_block_never_pastes_iff (run_of_execute done) admits found unwritten).mpr
  rw [silent.1, silent.2] at never
  apply never
  intro w member _
  rw [mem_singleton.mp member]
  simp [Worker.mayPaste, one]

/-- The worker has loaded `cancel_submit` as false when Core cancels it and admits the
    submission again; it then pastes. -/
theorem cancelled_worker_pastes : ∃ s t u d, Run (Takes step) System.start
        [.admitBegin composerCall, .finishBegin, .worker 0 .ok, .worker 0 .ok,
          .core composerBlock] s ∧
      step s (.admitBegin composerCall) = some t ∧
      s.runtime.deliveries.lookup composerCall.sessionId = some d ∧
      d.runtimeEpoch = composerCall.epoch ∧ d.submission = composerCall.submission ∧
      d.unwrittenBlock (load s.runtime.cells d.pasteStarted) = true ∧
      Run (Takes step) t [.worker 0 .ok, .worker 0 .ok, .worker 0 .ok] u ∧
      u.queue.count d.cancelSubmit = 1 ∧ t.queue.count d.cancelSubmit = 0 :=
  ⟨_,_,_,_,run_of_execute rfl,rfl,rfl,rfl,rfl,rfl,run_of_execute rfl,rfl,rfl⟩

end TermloopPasteRace
