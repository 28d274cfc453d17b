import Mathlib.Algebra.GroupWithZero.Nat
import Mathlib.Data.List.Basic
import Termloop.Lib.Runs

/-!
What the desktop's gateway hands on to one attachment. A frame that does not fit drops the
oldest ones, a gap message stands for what was dropped, and the credit of the renderer
decides when either is posted. The log of an attachment has the posted messages and, where
they happen, the losses.
-/
namespace TermloopGateway
open TermloopRuns List

def maxQueuedBytes : Nat := 4 * 1024 * 1024

structure QueuedFrame where
  kind : UInt8
  data : List UInt8

def QueuedFrame.bytes (frame : QueuedFrame) : Nat := frame.data.length

inductive Event where
  | gap
  | frame (frame : QueuedFrame)
  | dropped (frame : QueuedFrame)

structure Attachment where
  credit : Nat := 0
  queuedBytes : Nat := 0
  queue : List QueuedFrame := []
  gapPending : Bool := false
  log : List Event := []

/-- The first loop of `enqueue`, over the queue. -/
def makeRoom (bytes : Nat) : List QueuedFrame → Attachment → Attachment
  | [], attachment => attachment
  | dropped :: rest, attachment =>
    if attachment.queuedBytes + bytes > maxQueuedBytes then
      makeRoom bytes rest
        { attachment with
          queue := rest, queuedBytes := attachment.queuedBytes - dropped.bytes, gapPending := true
          log := attachment.log ++ [.dropped dropped] }
    else attachment

/-- The loop of `flush`, over the queue. -/
def postFrames : List QueuedFrame → Attachment → Attachment
  | [], attachment => attachment
  | frame :: rest, attachment =>
    if attachment.credit < frame.bytes then attachment
    else
      postFrames rest
        { attachment with
          queue := rest, queuedBytes := attachment.queuedBytes - frame.bytes
          credit := attachment.credit - frame.bytes, log := attachment.log ++ [.frame frame] }

def postGap (attachment : Attachment) : Attachment :=
  if attachment.gapPending && decide (0 < attachment.credit) then
    { attachment with gapPending := false, log := attachment.log ++ [.gap] }
  else attachment

def flush (attachment : Attachment) : Attachment :=
  postFrames attachment.queue (postGap attachment)

def enqueue (attachment : Attachment) (frame : QueuedFrame) : Attachment :=
  let room := makeRoom frame.bytes attachment.queue attachment
  if frame.bytes > maxQueuedBytes then
    { room with gapPending := true, log := room.log ++ [.dropped frame] }
  else
    flush { room with
      queue := room.queue ++ [frame], queuedBytes := room.queuedBytes + frame.bytes }

def addCredit (attachment : Attachment) (bytes : Nat) : Attachment :=
  flush { attachment with credit := min maxQueuedBytes (attachment.credit + bytes) }

inductive Action where
  | enqueue (frame : QueuedFrame)
  | credit (bytes : Nat)

def perform (attachment : Attachment) : Action → Attachment
  | .enqueue frame => enqueue attachment frame
  | .credit bytes => addCredit attachment bytes

def Step (attachment : Attachment) (action : Action) (after : Attachment) : Prop :=
  perform attachment action = after

def Action.frame? : Action → Option QueuedFrame
  | .enqueue frame => some frame
  | .credit _ => none

def Event.posted? : Event → Option QueuedFrame
  | .frame value => some value
  | .gap | .dropped _ => none

/-- The frame that leaves the attachment with an event, posted or dropped. -/
def Event.left? : Event → Option QueuedFrame
  | .frame value | .dropped value => some value
  | .gap => none

/-- A frame was dropped and no gap message was posted since. -/
def owes (log : List Event) : Bool :=
  log.foldl (fun owed event => match event with
    | .gap => false
    | .dropped _ => true
    | .frame _ => owed) false

/-- Frames are posted while no gap is owed, and gaps only while one is. -/
def Fits (before : List Event) : Event → Prop
  | .frame _ => owes before = false
  | .gap => owes before = true
  | .dropped _ => True

def Marked (log : List Event) : Prop :=
  ∀ before event after, log = before ++ event :: after → Fits before event

/-- Where a gap is pending without credit, or frames have to go, the first frame left is not
    empty. -/
def GapComesFirst (attachment : Attachment) : Action → Prop
  | .enqueue frame => attachment.credit = 0 → ∀ gone first rest,
      attachment.queue ++ [frame] = gone ++ first :: rest →
      (gone = [] → attachment.gapPending = true) →
      (∀ last ∈ gone.getLast?,
        maxQueuedBytes < ((last :: first :: rest).map QueuedFrame.bytes).sum) →
      ((first :: rest).map QueuedFrame.bytes).sum ≤ maxQueuedBytes → 0 < first.bytes
  | .credit _ => True

structure Accounts (enqueued : List QueuedFrame) (attachment : Attachment) : Prop where
  counted : attachment.queuedBytes = (attachment.queue.map QueuedFrame.bytes).sum
  handled : attachment.log.filterMap Event.left? ++ attachment.queue = enqueued
  owed : attachment.gapPending = owes attachment.log
  marked : Marked attachment.log

structure Sound (enqueued : List QueuedFrame) (attachment : Attachment) : Prop
    extends Accounts enqueued attachment where
  bounded : attachment.queuedBytes ≤ maxQueuedBytes
  waits : ∀ first ∈ attachment.queue.head?, attachment.credit < first.bytes

variable {enqueued rest : List QueuedFrame} {att : Attachment} {frame : QueuedFrame}

theorem marked_snoc (marked : Marked log) (fits : Fits log event) : Marked (log ++ [event]) := by
  intro pre other after same
  rcases eq_nil_or_concat' after with rfl | ⟨init,last,rfl⟩
  · obtain ⟨rfl,one⟩ := append_inj' same rfl
    cases one
    exact fits
  · rw [← cons_append, ← append_assoc] at same
    exact marked pre other init (append_inj' same rfl).1

theorem owes_snoc : owes (log ++ [event]) = match event with
      | .gap => false
      | .dropped _ => true
      | .frame _ => owes log := by
  simp [owes]

theorem accounts_drop (accounts : Accounts enqueued att) (front : att.queue = frame :: rest) :
    Accounts enqueued
      { att with
        queue := rest, queuedBytes := att.queuedBytes - frame.bytes, gapPending := true
        log := att.log ++ [.dropped frame] } := by
  have handled := accounts.handled
  have counted := accounts.counted
  rw [front] at handled counted
  constructor
  · simp [counted]
  · simpa [Event.left?] using handled
  · simp [owes_snoc]
  · exact marked_snoc accounts.marked trivial

theorem accounts_post (accounts : Accounts enqueued att)
    (front : att.queue = frame :: rest) (free : att.gapPending = false) :
    Accounts enqueued
      { att with
        queue := rest, queuedBytes := att.queuedBytes - frame.bytes
        credit := att.credit - frame.bytes
        log := att.log ++ [.frame frame] } := by
  have handled := accounts.handled
  have counted := accounts.counted
  rw [front] at handled counted
  have clear : owes att.log = false := accounts.owed ▸ free
  constructor
  · simp [counted]
  · simpa [Event.left?] using handled
  · simp [owes_snoc, clear, free]
  · exact marked_snoc accounts.marked clear

theorem makeRoom_accounts : ∀ (queue : List QueuedFrame) {att : Attachment},
    att.queue = queue → Accounts enqueued att →
    Accounts enqueued (makeRoom bytes queue att) ∧
      (makeRoom bytes queue att).credit = att.credit ∧
      ((makeRoom bytes queue att).queue = [] ∨
        (makeRoom bytes queue att).queuedBytes + bytes ≤ maxQueuedBytes) ∧
      ∃ gone, queue = gone ++ (makeRoom bytes queue att).queue ∧
        (gone = [] → (makeRoom bytes queue att).gapPending = att.gapPending) ∧
        ∀ last ∈ gone.getLast?, maxQueuedBytes <
          last.bytes + (makeRoom bytes queue att).queuedBytes + bytes := by
  intro queue
  induction queue with
  | nil =>
    intro _ none_left accounts
    exact ⟨accounts,rfl,.inl none_left,[],none_left.symm,fun _ => rfl,nofun⟩
  | cons frame rest ih =>
    intro att front accounts
    rw [makeRoom]
    split
    · next full =>
      obtain ⟨kept,credit,room,gone,order,-,needed⟩ := ih rfl (accounts_drop accounts front)
      refine ⟨kept,credit,room,frame :: gone,congrArg (frame :: ·) order,nofun,?_⟩
      cases gone with
      | cons next more => exact needed
      | nil =>
        have left := kept.counted
        have whole := accounts.counted
        rw [nil_append] at order
        rw [front, map_cons, sum_cons] at whole
        rw [← order] at left
        intro last behind
        cases (Option.some.inj behind : frame = last)
        omega
    · next fits =>
      exact ⟨accounts,rfl,.inr (Nat.not_lt.mp fits),[],front.symm,fun _ => rfl,nofun⟩

theorem postFrames_sound : ∀ (queue : List QueuedFrame) {att : Attachment},
    att.queue = queue → Accounts enqueued att →
    att.queuedBytes ≤ maxQueuedBytes →
    (att.gapPending = false ∨ ∀ first ∈ queue.head?, att.credit < first.bytes) →
    Sound enqueued (postFrames queue att) := by
  intro queue
  induction queue with
  | nil =>
    intro att front accounts bounded _
    exact ⟨accounts,bounded,by simp [postFrames, front]⟩
  | cons frame rest ih =>
    intro att front accounts bounded free
    rw [postFrames]
    split
    · next beyond => exact ⟨accounts,bounded,by simp [front, beyond]⟩
    · next covered =>
      have clear := free.resolve_right fun stops => covered (stops frame (by simp))
      exact ih rfl (accounts_post accounts front clear) (Nat.le_trans (Nat.sub_le _ _) bounded)
        (.inl clear)

theorem flush_sound (accounts : Accounts enqueued att) (bounded : att.queuedBytes ≤ maxQueuedBytes)
    (first : att.gapPending → att.credit = 0 → ∀ first ∈ att.queue.head?, 0 < first.bytes) :
    Sound enqueued (flush att) := by
  unfold flush postGap
  split
  · next due =>
    simp only [Bool.and_eq_true, decide_eq_true_eq] at due
    have owed : owes att.log := accounts.owed ▸ due.1
    refine postFrames_sound _ rfl ⟨accounts.counted,?_,?_,?_⟩ bounded (.inl rfl)
    · have none_left : [Event.gap].filterMap Event.left? = [] := rfl
      simpa [none_left] using accounts.handled
    · simp [owes_snoc]
    · exact marked_snoc accounts.marked owed
  · next idle =>
    refine postFrames_sound _ rfl accounts bounded ?_
    by_cases pending : att.gapPending
    · have empty : att.credit = 0 := by simpa [pending] using idle
      exact .inr fun frame front => empty ▸ first pending empty frame front
    · exact .inl (eq_false_of_ne_true pending)

theorem step_sound (sound : Sound enqueued att) (comes : GapComesFirst att action) :
    Sound (enqueued ++ action.frame?.toList) (perform att action) := by
  cases action with
  | credit bytes =>
    simp only [Action.frame?, Option.toList_none, append_nil]
    refine flush_sound ⟨sound.counted,sound.handled,sound.owed,sound.marked⟩ sound.bounded ?_
    intro _ _ frame front
    have waits := sound.waits frame front
    omega
  | enqueue frame =>
    obtain ⟨accounts,credit,room,gone,order,quiet,needed⟩ :=
      makeRoom_accounts _ rfl sound.toAccounts
    simp only [perform, enqueue, Action.frame?, Option.toList_some]
    dsimp only [GapComesFirst] at comes
    generalize makeRoom frame.bytes att.queue att = made at *
    split
    · next large =>
      have none_left : made.queue = [] := room.resolve_right (by omega)
      have counted := accounts.counted
      have handled := accounts.handled
      rw [none_left] at counted handled
      refine ⟨⟨?_,?_,?_,?_⟩,?_,?_⟩
      · simpa [none_left] using counted
      · simpa [Event.left?, none_left] using handled
      · simp [owes_snoc]
      · exact marked_snoc accounts.marked trivial
      · simp [counted]
      · simp [none_left]
    · next small =>
      have fits : made.queuedBytes + frame.bytes ≤ maxQueuedBytes := by
        rcases room with none_left | fits
        · have counted := accounts.counted
          rw [none_left, map_nil, sum_nil] at counted
          omega
        · exact fits
      have total : ((made.queue ++ [frame]).map QueuedFrame.bytes).sum =
          made.queuedBytes + frame.bytes := by simp [accounts.counted]
      refine flush_sound ⟨total.symm,?_,accounts.owed,accounts.marked⟩ fits ?_
      · rw [← append_assoc, accounts.handled]
      · intro pending empty first front
        obtain ⟨rest,shape⟩ := head?_eq_some_iff.mp front
        dsimp only at shape pending empty
        rw [shape] at total
        refine comes (credit.symm.trans empty) gone first rest ?_ (fun none_gone => ?_) ?_
          (Nat.le_trans (Nat.le_of_eq total) fits)
        · rw [order, append_assoc, shape]
        · exact quiet none_gone ▸ pending
        · intro last behind
          have more := needed last behind
          rw [map_cons, sum_cons, total]
          omega

theorem posted_left (log : List Event) :
    (log.filterMap Event.posted?).Sublist (log.filterMap Event.left?) := by
  induction log with
  | nil => exact .slnil
  | cons event rest ih =>
    cases event with
    | gap => exact ih
    | frame frame => exact ih.cons_cons frame
    | dropped frame => exact ih.cons frame

/-- As long as no empty frame overtakes a pending gap, losses and only losses are marked. -/
theorem gateway_marks_every_loss {after : Attachment} {actions : List Action}
    (run : Run (Guarded GapComesFirst Step) {} actions after) :
    after.queuedBytes = (after.queue.map QueuedFrame.bytes).sum ∧
      after.queuedBytes ≤ maxQueuedBytes ∧
      after.log.filterMap Event.left? ++ after.queue = actions.filterMap Action.frame? ∧
      (after.log.filterMap Event.posted?).Sublist (actions.filterMap Action.frame?) ∧
      (∀ before frame later, after.log = before ++ .frame frame :: later →
        owes before = false) ∧
      ∀ before later, after.log = before ++ .gap :: later → owes before = true := by
  have keeps {past before action after} (sound : Sound (past.filterMap Action.frame?) before)
      (step : Guarded GapComesFirst Step before action after) :
      Sound ((past ++ [action]).filterMap Action.frame?) after := by
    obtain ⟨comes,rfl⟩ := step
    rw [filterMap_append]
    cases action <;> exact step_sound sound comes
  have fresh : Sound (([] : List Action).filterMap Action.frame?) {} :=
    ⟨⟨rfl,rfl,rfl,fun before event after same => by simp at same⟩,Nat.zero_le _,by simp⟩
  have sound := run_history_invariant (fun past => Sound (past.filterMap Action.frame?))
    keeps run [] fresh
  rw [nil_append] at sound
  refine ⟨sound.counted,sound.bounded,sound.handled,?_,
    fun before frame later same => sound.marked before (.frame frame) later same,
    fun before later same => sound.marked before .gap later same⟩
  rw [← sound.handled]
  exact (posted_left after.log).trans (sublist_append_left _ _)

theorem nonempty_frames_come_first
    (some_bytes : ∀ queued ∈ att.queue ++ [frame], 0 < queued.bytes) :
    GapComesFirst att (.enqueue frame) :=
  fun _ _ first _ order _ _ _ => some_bytes first (by simp [order])

theorem crowded_run (size : full.bytes = maxQueuedBytes) :
    ∃ after, Run (Guarded GapComesFirst Step) {}
        [.enqueue full, .enqueue ⟨1, [65]⟩, .enqueue full, .credit maxQueuedBytes] after ∧
      after.log = [.dropped full, .dropped ⟨1, [65]⟩, .gap, .frame full] := by
  have positive : 0 < maxQueuedBytes := by decide
  have nonzero := Nat.ne_of_gt positive
  have one : QueuedFrame.bytes ⟨1,[65]⟩ = 1 := rfl
  refine ⟨_,.cons ⟨nonempty_frames_come_first ?_,rfl⟩ (.cons ⟨nonempty_frames_come_first ?_,rfl⟩
    (.cons ⟨nonempty_frames_come_first ?_,rfl⟩ (run_single ⟨trivial,rfl⟩))),?_⟩
  all_goals simp [perform, enqueue, addCredit, makeRoom, flush, postGap, postFrames, size, one,
    positive, nonzero]

theorem losses_are_marked_before_the_next_frame : ∃ full after, Run (Guarded GapComesFirst Step) {}
        [.enqueue full, .enqueue ⟨1, [65]⟩, .enqueue full, .credit maxQueuedBytes] after ∧
      after.log = [.dropped full, .dropped ⟨1, [65]⟩, .gap, .frame full] ∧
      (∀ before frame later, after.log = before ++ .frame frame :: later →
        owes before = false) ∧
      ∀ before later, after.log = before ++ .gap :: later → owes before = true := by
  have size : QueuedFrame.bytes ⟨1,List.replicate maxQueuedBytes 0⟩ = maxQueuedBytes :=
    length_replicate
  obtain ⟨after,run,log⟩ := crowded_run size
  exact ⟨_,after,run,log,(gateway_marks_every_loss run).2.2.2.2⟩

theorem full_frame_drops (size : full.bytes = maxQueuedBytes) :
    (perform (perform (perform {} (.enqueue full)) (.enqueue ⟨2, []⟩)) (.enqueue full)).log =
      [.dropped full, .frame ⟨2, []⟩] := by
  have positive : 0 < maxQueuedBytes := by decide
  have empty : QueuedFrame.bytes ⟨2,[]⟩ = 0 := rfl
  simp [perform, enqueue, makeRoom, flush, postGap, postFrames, size, empty, positive]

/-- Without credit the second full frame drops the first, and the empty frame between them
    is posted with no gap message. -/
theorem empty_frame_overtakes_gap :
    ∃ full after, Run Step {} [.enqueue full, .enqueue ⟨2, []⟩, .enqueue full] after ∧
      after.log = [.dropped full, .frame ⟨2, []⟩] ∧ owes [.dropped full] = true :=
  ⟨⟨1,List.replicate maxQueuedBytes 0⟩,_,Run.cons rfl (Run.cons rfl (run_single rfl)),
    full_frame_drops length_replicate,rfl⟩

end TermloopGateway
