import Termloop.Lib.KeyedTables

/-!
Generated inputs that wait for their Session, one queue a Session and epoch. A queue of another
epoch is cleared on the way in and removed on the way out. Beside the queues stands what was
accepted and returned since the queue of a Session is the one it is.
-/
namespace TermloopInputQueue
open TermloopKeyed List

def maxQueuedGeneratedInputsPerSession : Nat := 16
def maxQueuedGeneratedInputs : Nat := 256

variable {Submission : Type}

structure PendingGeneratedInputQueue (Submission : Type) where
  runtimeEpoch : Nat
  submissions : List Submission

abbrev Queues (Submission : Type) : Type :=
  AList fun _ : String => PendingGeneratedInputQueue Submission

def totalQueued (queues : Queues Submission) : Nat :=
  (gather (fun _ queue => queue.submissions) queues).length

def enqueue (queues : Queues Submission) (sessionId : String) (runtimeEpoch : Nat)
    (submission : Submission) : Bool × Queues Submission :=
  let found := (queues.lookup sessionId).getD ⟨runtimeEpoch, []⟩
  let queue := if found.runtimeEpoch ≠ runtimeEpoch then ⟨runtimeEpoch, []⟩ else found
  if queue.submissions.length ≥ maxQueuedGeneratedInputsPerSession
      ∨ totalQueued queues ≥ maxQueuedGeneratedInputs then
    (false, queues.insert sessionId queue)
  else
    (true, queues.insert sessionId
      { queue with submissions := queue.submissions ++ [submission] })

def pop (queues : Queues Submission) (sessionId : String) (runtimeEpoch : Nat) :
    Option Submission × Queues Submission :=
  match queues.lookup sessionId with
  | none => (none, queues)
  | some queue =>
    if queue.runtimeEpoch = runtimeEpoch then
      let rest := queue.submissions.tail
      (queue.submissions.head?,
        if rest = [] then queues.erase sessionId
        else queues.insert sessionId { queue with submissions := rest })
    else (none, queues.erase sessionId)

inductive Operation (Submission : Type) where
  | enqueue (sessionId : String) (runtimeEpoch : Nat) (submission : Submission)
  | pop (sessionId : String) (runtimeEpoch : Nat)

/-- The queues, and for each Session what its present queue accepted and gave back. -/
structure History (Submission : Type) where
  queues : Queues Submission := ∅
  accepted : String → List (String × Nat × Submission) := fun _ => []
  returned : String → List Submission := fun _ => []

def epochOf (queues : Queues Submission) (sessionId : String) : Option Nat :=
  (queues.lookup sessionId).map (·.runtimeEpoch)

def History.perform (history : History Submission) : Operation Submission → History Submission
  | .enqueue sessionId runtimeEpoch submission =>
    let call := enqueue history.queues sessionId runtimeEpoch submission
    let same := epochOf history.queues sessionId = some runtimeEpoch
    { queues := call.2
      accepted := Function.update history.accepted sessionId
        ((if same then history.accepted sessionId else [])
          ++ if call.1 then [(sessionId, runtimeEpoch, submission)] else [])
      returned := Function.update history.returned sessionId
        (if same then history.returned sessionId else []) }
  | .pop sessionId runtimeEpoch =>
    let call := pop history.queues sessionId runtimeEpoch
    let removed := epochOf call.2 sessionId = none
    { queues := call.2
      accepted := Function.update history.accepted sessionId
        (if removed then [] else history.accepted sessionId)
      returned := Function.update history.returned sessionId
        (if removed then [] else history.returned sessionId ++ call.1.toList) }

def after (operations : List (Operation Submission)) : History Submission :=
  operations.foldl History.perform {}

/-- A queue is what its Session and epoch were accepted and not given back, within the limits. -/
structure Waits (history : History Submission) : Prop where
  queued : ∀ sessionId queue, history.queues.lookup sessionId = some queue →
    history.accepted sessionId = (history.returned sessionId ++ queue.submissions).map
        (sessionId, queue.runtimeEpoch, ·)
      ∧ queue.submissions.length ≤ maxQueuedGeneratedInputsPerSession
  total : totalQueued history.queues ≤ maxQueuedGeneratedInputs

section Steps
variable {queues : Queues Submission} {sid : String} {epoch : Nat} {sub : Submission}
  {queue : PendingGeneratedInputQueue Submission} {past : History Submission}

theorem total_insert : totalQueued (queues.insert sid queue) =
    queue.submissions.length + totalQueued (queues.erase sid) := by
  rw [totalQueued, gather_insert, length_append, totalQueued]

theorem total_found (hit : queues.lookup sid = some queue) :
    totalQueued queues = queue.submissions.length + totalQueued (queues.erase sid) := by
  rw [totalQueued, (gather_perm hit).length_eq, length_append, totalQueued]

theorem total_erase : totalQueued (queues.erase sid) ≤ totalQueued queues :=
  (gather_erase_sublist _ queues sid).length_le

/-- What a call adds to: the present queue, or nothing if that is of another epoch. -/
def live (queues : Queues Submission) (sessionId : String) (epoch : Nat) : List Submission :=
  match queues.lookup sessionId with
  | some queue => if queue.runtimeEpoch = epoch then queue.submissions else []
  | none => []

theorem enqueue_eq : enqueue queues sid epoch sub =
    if (live queues sid epoch).length ≥ maxQueuedGeneratedInputsPerSession
        ∨ totalQueued queues ≥ maxQueuedGeneratedInputs then
      (false, queues.insert sid ⟨epoch, live queues sid epoch⟩)
    else (true, queues.insert sid ⟨epoch, live queues sid epoch ++ [sub]⟩) := by
  unfold enqueue live
  cases queues.lookup sid with
  | none => simp
  | some queue =>
    obtain ⟨own,submissions⟩ := queue
    by_cases same : own = epoch <;> simp [same]

theorem live_total : (live queues sid epoch).length + totalQueued (queues.erase sid) ≤
    totalQueued queues := by
  unfold live
  split
  next queue hit =>
    rw [total_found hit]
    split <;> simp
  next => simpa using total_erase

section
variable (waits : Waits past)
include waits

theorem waits_live : (if epochOf past.queues sid = some epoch then past.accepted sid else []) =
        ((if epochOf past.queues sid = some epoch then past.returned sid else [])
          ++ live past.queues sid epoch).map (sid, epoch, ·)
      ∧ (live past.queues sid epoch).length ≤ maxQueuedGeneratedInputsPerSession := by
  unfold live epochOf
  cases hit : past.queues.lookup sid with
  | none => simp
  | some queue =>
    obtain ⟨accounts,few⟩ := waits.queued sid queue hit
    by_cases same : queue.runtimeEpoch = epoch
    · simp only [Option.map_some, same, ↓reduceIte]
      exact ⟨same ▸ accounts,few⟩
    · simp [same]

/-- Only one Session's queue changes in a call. -/
theorem waits_step (others : ∀ other, other ≠ sid → edited.lookup other = past.queues.lookup other)
    (own : ∀ queue, edited.lookup sid = some queue →
      accepted = (returned ++ queue.submissions).map (sid, queue.runtimeEpoch, ·)
        ∧ queue.submissions.length ≤ maxQueuedGeneratedInputsPerSession)
    (total : totalQueued edited ≤ maxQueuedGeneratedInputs) :
    Waits ⟨edited, Function.update past.accepted sid accepted,
      Function.update past.returned sid returned⟩ := by
  refine ⟨fun other queue hit => ?_,total⟩
  by_cases same : other = sid
  · subst same
    simpa using own queue hit
  · simp only [Function.update_of_ne same]
    exact waits.queued other queue (others other same ▸ hit)

theorem waits_insert
    (accounts : accepted = (returned ++ queue.submissions).map (sid, queue.runtimeEpoch, ·))
    (few : queue.submissions.length ≤ maxQueuedGeneratedInputsPerSession)
    (total : queue.submissions.length + totalQueued (past.queues.erase sid) ≤
      maxQueuedGeneratedInputs) :
    Waits ⟨past.queues.insert sid queue, Function.update past.accepted sid accepted,
      Function.update past.returned sid returned⟩ := by
  refine waits_step waits (fun other apart => AList.lookup_insert_ne apart) ?_ (total_insert ▸ total)
  intro other hit
  rw [AList.lookup_insert] at hit
  cases hit
  exact ⟨accounts,few⟩

theorem enqueue_waits : Waits (past.perform (.enqueue sid epoch sub)) := by
  obtain ⟨accounts,few⟩ := @waits_live _ sid epoch _ waits
  have shrinks := @live_total _ past.queues sid epoch
  have limit := waits.total
  rw [History.perform, enqueue_eq]
  split
  · refine waits_insert waits ?_ few (Nat.le_trans shrinks limit)
    rw [accounts]
    exact append_nil _
  next room =>
    refine waits_insert waits ?_ ?_ ?_
    · rw [accounts]
      simp
    all_goals
      rw [length_append, length_singleton]
      omega

theorem pop_waits : Waits (past.perform (.pop sid epoch)) := by
  have gone : Waits ⟨past.queues.erase sid,Function.update past.accepted sid [],
      Function.update past.returned sid []⟩ := by
    refine waits_step waits (fun other apart => AList.lookup_erase_ne apart) ?_
      (Nat.le_trans total_erase waits.total)
    intro queue hit
    rw [AList.lookup_erase] at hit
    cases hit
  rw [History.perform, pop]
  dsimp only
  split
  next absent =>
    rw [erase_of_absent absent] at gone
    simpa [epochOf, absent] using gone
  next queue hit =>
    obtain ⟨accounts,few⟩ := waits.queued sid queue hit
    have total := total_found hit ▸ waits.total
    obtain ⟨own,submissions⟩ := queue
    split
    · split
      · simpa [epochOf] using gone
      next more =>
        cases submissions with
        | nil => exact absurd rfl more
        | cons first rest =>
          simp only [epochOf, AList.lookup_insert, Option.map_some, reduceCtorEq, ↓reduceIte,
            length_cons] at few total ⊢
          refine waits_insert waits ?_ ?_ ?_
          · rw [accounts]
            simp
          all_goals
            dsimp only [tail_cons]
            omega
    · simpa [epochOf] using gone

end

theorem after_waits : Waits (after operations) := by
  refine foldlRecOn operations History.perform ?_ fun past waits operation _ => ?_
  · exact ⟨nofun,Nat.zero_le _⟩
  · cases operation with
    | enqueue => exact enqueue_waits waits
    | pop => exact pop_waits waits

end Steps

/-- A pop returns the first submission that its own Session and epoch had accepted and not yet
    returned, and the queues stay within both limits. -/
theorem generated_inputs_are_fifo (operations : List (Operation Submission)) :
    let history := after operations
    (∀ sessId epoch submission, (pop history.queues sessId epoch).1 = some submission →
      ∃ rest, history.accepted sessId =
        (history.returned sessId ++ submission :: rest).map (sessId, epoch, ·))
      ∧ (∀ sessId queue, history.queues.lookup sessId = some queue →
        queue.submissions.length ≤ maxQueuedGeneratedInputsPerSession)
      ∧ totalQueued history.queues ≤ maxQueuedGeneratedInputs := by
  intro history
  have waits : Waits history := after_waits
  refine ⟨fun sessId epoch submission popped => ?_,
    fun sessId queue hit => (waits.queued sessId queue hit).2,waits.total⟩
  unfold pop at popped
  split at popped
  · cases popped
  next queue hit =>
    split at popped
    next same =>
      obtain ⟨rest,shape⟩ := head?_eq_some_iff.mp popped
      exact ⟨rest,shape ▸ same ▸ (waits.queued sessId queue hit).1⟩
    next => cases popped

/-- What a call should answer, with the submissions of other epochs gone, and what it may leave. -/
def AdmitsLive (queues : Queues Submission) (sessionId : String) (epoch : Nat)
    (submission : Submission) : Prop :=
  let call := enqueue queues sessionId epoch submission
  (call.1 = true ↔
      (live queues sessionId epoch).length < maxQueuedGeneratedInputsPerSession
        ∧ (live queues sessionId epoch).length + totalQueued (queues.erase sessionId) <
          maxQueuedGeneratedInputs)
    ∧ (call.1 = false → (∀ other, live call.2 other epoch = live queues other epoch)
      ∧ ∀ other, queues.lookup other = none → call.2.lookup other = none)

theorem live_insert (other : String) : live (queues.insert sid ⟨epoch, live queues sid epoch⟩) other
      epoch = live queues other epoch := by
  by_cases same : other = sid
  · rw [same, live, AList.lookup_insert]
    exact if_pos rfl
  · rw [live, AList.lookup_insert_ne same, live]

/-- Admission is as it should be unless all places are taken and the Session has none of them, or
    only those of another epoch. -/
theorem enqueue_admits_live_iff (operations : List (Operation Submission)) (sessId : String)
    (epoch : Nat) (submission : Submission) :
    let queues := (after operations).queues
    AdmitsLive queues sessId epoch submission ↔
      totalQueued queues < maxQueuedGeneratedInputs
        ∨ ∃ queue, queues.lookup sessId = some queue
          ∧ (queue.runtimeEpoch = epoch ∨ queue.submissions = []) := by
  intro queues
  have limit : totalQueued queues ≤ maxQueuedGeneratedInputs := (after_waits).total
  have shrinks := @live_total _ queues sessId epoch
  have kept : ∀ queue, queues.lookup sessId = some queue → ∀ other, queues.lookup other = none →
      (queues.insert sessId ⟨epoch,live queues sessId epoch⟩).lookup other = none := by
    intro queue hit other absent
    rwa [AList.lookup_insert_ne fun same => by rw [same, hit] at absent; cases absent]
  unfold AdmitsLive
  rw [enqueue_eq]
  dsimp only
  by_cases full : totalQueued queues < maxQueuedGeneratedInputs
  · refine iff_of_true ?_ (.inl full)
    split
    next refused =>
      have long := refused.resolve_right (Nat.not_le.mpr full)
      refine ⟨by simp [Nat.not_lt.mpr long],fun _ => ⟨live_insert,?_⟩⟩
      cases hit : queues.lookup sessId with
      | none =>
        rw [live, hit] at long
        cases long
      | some queue => exact kept queue hit
    next room => exact ⟨by simp only [true_iff]; omega,nofun⟩
  · rw [if_pos (.inr (Nat.not_lt.mp full)), or_iff_right full]
    cases hit : queues.lookup sessId with
    | none =>
      refine iff_of_false (fun right => ?_) (by simp)
      have added := (right.2 rfl).2 sessId hit
      rw [AList.lookup_insert] at added
      cases added
    | some queue =>
      have total := total_found hit
      have own : live queues sessId epoch =
          if queue.runtimeEpoch = epoch then queue.submissions else [] := by rw [live, hit]
      have some : 0 < maxQueuedGeneratedInputsPerSession := by decide
      rw [and_iff_left fun _ => ⟨live_insert,kept queue hit⟩, own]
      simp only [Bool.false_eq_true, false_iff, Option.some.injEq, exists_eq_left',
        ← length_eq_zero_iff]
      by_cases same : queue.runtimeEpoch = epoch <;>
        simp only [same, ↓reduceIte, length_nil, true_or, iff_true, false_or] <;> omega

/-- Sixteen Sessions with sixteen submissions each. -/
def crowd : List (Operation Unit) :=
  (range 16).flatMap fun i => replicate 16 (.enqueue (String.singleton (Char.ofNat (97 + i))) 0 ())

set_option maxRecDepth 100000 in
/-- A seventeenth Session is refused and gets an entry with nothing in it. -/
theorem refused_session_leaves_empty_entry : let queues := (after crowd).queues
    totalQueued queues = 256 ∧ (queues.lookup "z").isNone ∧ (enqueue queues "z" 0 ()).1 = false
      ∧ ((enqueue queues "z" 0 ()).2.lookup "z").map (·.submissions) = some [] := by
  decide +kernel

end TermloopInputQueue
