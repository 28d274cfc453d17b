import Termloop.Lib.Runs
import Termloop.Server.OutboundBuffer

/-!
Attachments of a terminal connection and whose output the client reads. A pump puts the
output of one attachment into the Session's queue; a second attachment of the Session
stops the pump and starts another one, and its acknowledgement overtakes what waits in
the queue. To say whose frame is read, every frame is traced to the one who queued it.
The traced buffer takes the same turns as the buffer of the connection.
-/
namespace TermloopAttach
open TermloopOutbound TermloopRuns TermloopSaturating TermloopKeyed List

/-- Who queues a frame: the pump of an attachment, or the socket's own loop. -/
inductive Origin where
  | pump (attachment : Nat)
  | socket

structure TracedQueue where
  frames : List (TerminalFrame × Origin)
  /-- The frames that were dropped since the last gap was read. -/
  evicted : List Origin
  attachAck : Option (TerminalFrame × Origin)
  inputAck : Option TerminalFrame

inductive Popped where
  | attachAck (frame : TerminalFrame) (origin : Origin)
  | evictionGap (frame : TerminalFrame) (evicted : List Origin)
  | inputAck (frame : TerminalFrame)
  | queued (frame : TerminalFrame) (origin : Origin)

def Popped.frame : Popped → TerminalFrame
  | .attachAck frame _ | .evictionGap frame _ | .inputAck frame | .queued frame _ => frame

namespace TracedQueue

def empty : TracedQueue := ⟨[], [], none, none⟩

def plain (queue : TracedQueue) : AttachmentQueue :=
  { frames := queue.frames.map Prod.fst, dropped := min queue.evicted.length u64Max
    attachAck := queue.attachAck.map Prod.fst, inputAck := queue.inputAck }

def push (queue : TracedQueue) (frame : TerminalFrame) (origin : Origin) : TracedQueue :=
  if frame.kind = .ack then { queue with attachAck := some (frame, origin) }
  else if frame.kind = .inputAck then
    if queue.inputAck.all fun pending =>
        pending.epoch != frame.epoch || decide (pending.sequence < frame.sequence) then
      { queue with inputAck := some frame }
    else queue
  else if queue.frames.length = maxAttachmentFrames then
    { queue with
      frames := queue.frames.tail ++ [(frame, origin)]
      evicted := queue.evicted ++ (queue.frames.head?.map Prod.snd).toList }
  else { queue with frames := queue.frames ++ [(frame, origin)] }

def turn (id : String) (queue : TracedQueue) : Option (Option Popped) × TracedQueue :=
  match queue.attachAck with
  | some (frame, origin) => (some (some (.attachAck frame origin)), { queue with attachAck := none })
  | none =>
    if queue.evicted.length > 0 then
      (some (queue.frames.head?.map fun next =>
        .evictionGap (AttachmentQueue.gapFrame id (min queue.evicted.length u64Max) next.1)
          queue.evicted),
        { queue with evicted := [] })
    else
      match queue.inputAck with
      | some frame => (some (some (.inputAck frame)), { queue with inputAck := none })
      | none =>
        match queue.frames with
        | (frame, origin) :: rest =>
          (some (some (.queued frame origin)), { queue with frames := rest })
        | [] => (none, queue)

theorem plain_empty : empty.plain = AttachmentQueue.empty := rfl

theorem plain_push (queue : TracedQueue) (frame : TerminalFrame) (origin : Origin) :
    (queue.push frame origin).plain = queue.plain.push frame := by
  unfold push AttachmentQueue.push
  by_cases ack : frame.kind = .ack
  · simp only [if_pos ack, plain, Option.map_some]
  by_cases input : frame.kind = .inputAck
  · simp only [if_neg ack, if_pos input]
    exact apply_ite plain _ _ _
  by_cases full : queue.frames.length = maxAttachmentFrames
  · have counted : queue.plain.frames.length = maxAttachmentFrames := by
      rwa [plain, length_map]
    rw [if_neg ack, if_neg input, if_pos full, if_neg ack, if_neg input, if_pos counted]
    cases shape : queue.frames with
    | nil =>
      rw [shape] at full
      cases full
    | cons first rest => simp [plain, shape, saturatingAdd_counts]
  · have counted : ¬ queue.plain.frames.length = maxAttachmentFrames := by
      rwa [plain, length_map]
    rw [if_neg ack, if_neg input, if_neg full, if_neg ack, if_neg input, if_neg counted]
    simp [plain]

theorem plain_turn (id : String) (queue : TracedQueue) : queue.plain.turn id =
      ((queue.turn id).1.map fun popped => popped.map Popped.frame, (queue.turn id).2.plain) := by
  unfold turn AttachmentQueue.turn
  cases acked : queue.attachAck with
  | some entry => simp [plain, acked, Popped.frame]
  | none =>
    by_cases lost : queue.evicted = []
    · cases input : queue.inputAck with
      | some frame => simp [plain, acked, lost, input, Popped.frame]
      | none =>
        cases waiting : queue.frames with
        | nil => simp [plain, acked, lost, input, waiting]
        | cons first rest => simp [plain, acked, lost, input, waiting, Popped.frame]
    · have some_lost := length_pos_of_ne_nil lost
      have owed : 0 < min queue.evicted.length u64Max := Nat.lt_min.mpr ⟨some_lost,by decide⟩
      simp [plain, acked, some_lost, owed, Popped.frame, Function.comp_def]

end TracedQueue

structure TracedBuffer where
  attachments : AList fun _ : String => TracedQueue
  roundRobin : List String

namespace TracedBuffer

def empty : TracedBuffer := ⟨∅, []⟩

def enqueue (buffer : TracedBuffer) (frame : TerminalFrame) (origin : Origin) : TracedBuffer :=
  match buffer.attachments.lookup frame.sessionId with
  | some queue =>
    { buffer with
      attachments := buffer.attachments.insert frame.sessionId (queue.push frame origin) }
  | none =>
    { attachments := buffer.attachments.insert frame.sessionId
        (TracedQueue.empty.push frame origin)
      roundRobin := buffer.roundRobin ++ [frame.sessionId] }

def popTurns : Nat → TracedBuffer → Option Popped × TracedBuffer
  | 0, buffer => (none, buffer)
  | turns + 1, buffer =>
    match buffer.roundRobin with
    | [] => (none, buffer)
    | id :: rest =>
      let buffer := { buffer with roundRobin := rest ++ [id] }
      match buffer.attachments.lookup id with
      | none => (none, buffer)
      | some queue =>
        match queue.turn id with
        | (some popped, queue) =>
          (popped, { buffer with attachments := buffer.attachments.insert id queue })
        | (none, queue) =>
          popTurns turns { buffer with attachments := buffer.attachments.insert id queue }

def popFair (buffer : TracedBuffer) : Option Popped × TracedBuffer :=
  popTurns buffer.roundRobin.length buffer

def detach (buffer : TracedBuffer) (sessionId : String) : TracedBuffer :=
  { attachments := buffer.attachments.erase sessionId
    roundRobin := buffer.roundRobin.filter fun candidate => candidate != sessionId }

structure Traces (traced : TracedBuffer) (buffer : OutboundBuffer) : Prop where
  queues : ∀ id, buffer.attachments.lookup id =
    (traced.attachments.lookup id).map TracedQueue.plain
  turns : buffer.roundRobin = traced.roundRobin

variable {traced : TracedBuffer} {buffer : OutboundBuffer}

theorem traces_insert (traces : Traces traced buffer) (id : String) (queue : TracedQueue)
    (order : List String) :
    Traces ⟨traced.attachments.insert id queue, order⟩
      ⟨buffer.attachments.insert id queue.plain, order⟩ := by
  refine ⟨fun other => ?_,rfl⟩
  rw [lookup_insert_if, lookup_insert_if]
  split
  · rfl
  · exact traces.queues other

theorem traces_enqueue (traces : Traces traced buffer) (frame : TerminalFrame) (origin : Origin) :
    Traces (traced.enqueue frame origin) (buffer.enqueue frame) := by
  unfold enqueue OutboundBuffer.enqueue
  rw [traces.queues frame.sessionId]
  cases traced.attachments.lookup frame.sessionId with
  | some queue =>
    dsimp only [Option.map_some]
    rw [← TracedQueue.plain_push queue frame origin, traces.turns]
    exact traces_insert traces _ _ _
  | none =>
    dsimp only [Option.map_none]
    rw [← TracedQueue.plain_empty, ← TracedQueue.plain_push _ frame origin, traces.turns]
    exact traces_insert traces _ _ _

theorem traces_popTurns (turns : Nat) (traces : Traces traced buffer) :
    (buffer.popTurns turns).1 = (traced.popTurns turns).1.map Popped.frame ∧
      Traces (traced.popTurns turns).2 (buffer.popTurns turns).2 := by
  induction turns generalizing traced buffer with
  | zero => exact ⟨rfl,traces⟩
  | succ turns ih =>
    unfold popTurns OutboundBuffer.popTurns
    rw [traces.turns]
    cases traced.roundRobin with
    | nil => exact ⟨rfl,traces⟩
    | cons id rest =>
      dsimp only
      rw [traces.queues id]
      cases traced.attachments.lookup id with
      | none => exact ⟨rfl,⟨traces.queues,rfl⟩⟩
      | some queue =>
        dsimp only [Option.map_some]
        rw [TracedQueue.plain_turn]
        cases turned : queue.turn id with
        | mk popped left =>
          cases popped with
          | some popped => exact ⟨rfl,traces_insert traces _ _ _⟩
          | none => exact ih (traces_insert traces _ _ _)

theorem traces_popFair (traces : Traces traced buffer) :
    buffer.popFair.1 = traced.popFair.1.map Popped.frame ∧
      Traces traced.popFair.2 buffer.popFair.2 := by
  rw [OutboundBuffer.popFair, popFair, traces.turns]
  exact traces_popTurns _ traces

theorem traces_detach (traces : Traces traced buffer) :
    Traces (traced.detach sid) (buffer.detach sid) := by
  refine ⟨fun other => ?_,?_⟩
  · by_cases same : other = sid
    · rw [same, detach, OutboundBuffer.detach, AList.lookup_erase, AList.lookup_erase,
        Option.map_none]
    · rw [detach, OutboundBuffer.detach, AList.lookup_erase_ne same, AList.lookup_erase_ne same]
      exact traces.queues other
  · rw [detach, OutboundBuffer.detach, traces.turns]

end TracedBuffer

structure Pump where
  (attachment epoch sequence : Nat)
  running : Bool

structure Connection where
  buffer : TracedBuffer
  attachedEpochs : AList fun _ : String => Nat
  attachmentTasks : AList fun _ : String => Pump
  attachments : Nat
  /-- Attachments whose acknowledgement was read and that are neither replaced nor detached.
      -/
  current : AList fun _ : String => Nat

def Connection.fresh : Connection := ⟨.empty, ∅, ∅, 0, ∅⟩

def isPumped : FrameKind → Bool
  | .output | .replayOutput | .gap | .eof => true
  | _ => false

def isNotice : FrameKind → Bool
  | .resizeOwnership | .error | .inputAck => true
  | _ => false

inductive Action where
  | attach (frame : TerminalFrame) (payload : List UInt8)
  | detach (frame : TerminalFrame)
  | pump (sessionId : String) (kind : FrameKind) (payload : List UInt8)
  | notice (frame : TerminalFrame)
  | popFair

namespace Connection

/-- The previous pump is stopped, the acknowledgement queued and a pump started. -/
def attach (connection : Connection) (frame : TerminalFrame) (payload : List UInt8) : Connection :=
  { buffer := connection.buffer.enqueue { frame with kind := .ack, payload }
      (.pump connection.attachments)
    attachedEpochs := connection.attachedEpochs.insert frame.sessionId frame.epoch
    attachmentTasks := connection.attachmentTasks.insert frame.sessionId
      ⟨connection.attachments, frame.epoch, 1, true⟩
    attachments := connection.attachments + 1, current := connection.current.erase frame.sessionId }

def detach (connection : Connection) (frame : TerminalFrame) : Connection :=
  if connection.attachedEpochs.lookup frame.sessionId = some frame.epoch then
    { connection with
      buffer := connection.buffer.detach frame.sessionId
      attachedEpochs := connection.attachedEpochs.erase frame.sessionId
      attachmentTasks := connection.attachmentTasks.erase frame.sessionId
      current := connection.current.erase frame.sessionId }
  else connection

def pump (connection : Connection) (sessionId : String) (task : Pump) (kind : FrameKind)
    (payload : List UInt8) : Connection :=
  { connection with
    buffer := connection.buffer.enqueue ⟨sessionId, task.epoch, task.sequence, kind, payload⟩
      (.pump task.attachment)
    attachmentTasks := connection.attachmentTasks.insert sessionId
      { task with sequence := task.sequence + 1, running := decide (kind ≠ .eof) } }

def notice (connection : Connection) (frame : TerminalFrame) : Connection :=
  { connection with buffer := connection.buffer.enqueue frame .socket }

/-- What the client has read: an acknowledgement makes its attachment the current one. -/
def read (connection : Connection) : Option Popped → AList fun _ : String => Nat
  | some (.attachAck frame (.pump attachment)) =>
    connection.current.insert frame.sessionId attachment
  | _ => connection.current

def popFair (connection : Connection) : Connection :=
  { connection with
    buffer := connection.buffer.popFair.2, current := connection.read connection.buffer.popFair.1 }

def owners (connection : Connection) (id : String) : Option Origin :=
  (connection.attachmentTasks.lookup id).map fun task => .pump task.attachment

end Connection

inductive Step : Connection → Action → Connection → Prop where
  | attach (connection frame payload) :
      Step connection (.attach frame payload) (connection.attach frame payload)
  | detach (connection frame) : Step connection (.detach frame) (connection.detach frame)
  | pump (connection sessionId task kind payload)
      (spawned : connection.attachmentTasks.lookup sessionId = some task)
      (running : task.running = true) (pumped : isPumped kind = true) :
      Step connection (.pump sessionId kind payload) (connection.pump sessionId task kind payload)
  | notice (connection frame) (noticed : isNotice frame.kind = true) :
      Step connection (.notice frame) (connection.notice frame)
  | popFair (connection) : Step connection .popFair connection.popFair

def Connection.onBuffer (connection : Connection) (buffer : OutboundBuffer) :
    Action → OutboundBuffer
  | .attach frame payload => buffer.enqueue { frame with kind := .ack, payload }
  | .detach frame =>
    if connection.attachedEpochs.lookup frame.sessionId = some frame.epoch then
      buffer.detach frame.sessionId
    else buffer
  | .pump sessionId kind payload =>
    match connection.attachmentTasks.lookup sessionId with
    | some task => buffer.enqueue ⟨sessionId, task.epoch, task.sequence, kind, payload⟩
    | none => buffer
  | .notice frame => buffer.enqueue frame
  | .popFair => buffer.popFair.2

theorem step_traces (step : Step conn action new) (traces : conn.buffer.Traces buffer) :
    new.buffer.Traces (conn.onBuffer buffer action) := by
  cases step with
  | attach => exact TracedBuffer.traces_enqueue traces _ _
  | detach frame =>
    unfold Connection.detach
    dsimp only [Connection.onBuffer]
    split
    · exact TracedBuffer.traces_detach traces
    · exact traces
  | pump _ _ _ _ spawned =>
    dsimp only [Connection.onBuffer]
    rw [spawned]
    exact TracedBuffer.traces_enqueue traces _ _
  | notice => exact TracedBuffer.traces_enqueue traces _ _
  | popFair => exact (TracedBuffer.traces_popFair traces).2

theorem run_traces (run : Run Step .fresh past conn) : ∃ buffer, conn.buffer.Traces buffer ∧
      buffer.popFair.1 = conn.buffer.popFair.1.map Popped.frame := by
  obtain ⟨buffer,traces⟩ := run_invariant (fun conn => ∃ buffer, conn.buffer.Traces buffer)
    (fun ⟨_,traces⟩ step => ⟨_,step_traces step traces⟩) run
    ⟨.empty,fun _ => rfl,rfl⟩
  exact ⟨buffer,traces,(TracedBuffer.traces_popFair traces).1⟩

/-- Nothing of a pump waits in the Session's queue, and no gap is owed. -/
def Drained (connection : Connection) (sessionId : String) : Prop :=
  ∀ queue, connection.buffer.attachments.lookup sessionId = some queue →
    queue.evicted = [] ∧ ∀ entry ∈ queue.frames, isPumped entry.1.kind = false

def AttachesDrained (connection : Connection) : Action → Prop
  | .attach frame _ => Drained connection frame.sessionId
  | _ => True

def Noticed (past : List Action) (sessionId : String) : Prop :=
  ∃ frame, Action.notice frame ∈ past ∧ frame.sessionId = sessionId

/-- The frame is of the attachment's pump, or the gap for its frames and perhaps notices. -/
def Popped.OfPump (past : List Action) (attachment : Nat) : Popped → Prop
  | .queued _ origin => origin = .pump attachment
  | .evictionGap frame evicted => ∀ origin ∈ evicted,
      origin = .pump attachment ∨ origin = .socket ∧ Noticed past frame.sessionId
  | .attachAck _ _ | .inputAck _ => False

section Isolation

def EntryClean (past : List Action) (id : String) (owner : Option Origin)
    (entry : TerminalFrame × Origin) : Prop :=
  entry.1.sessionId = id ∧ (isPumped entry.1.kind = true ∧ owner = some entry.2 ∨
    isPumped entry.1.kind = false ∧ entry.2 = .socket ∧ Noticed past id)

structure QueueClean (past : List Action) (id : String) (owner : Option Origin)
    (queue : TracedQueue) : Prop where
  frames : ∀ entry ∈ queue.frames, EntryClean past id owner entry
  evicted : ∀ origin ∈ queue.evicted, owner = some origin ∨ origin = .socket ∧ Noticed past id
  attachAck : ∀ entry, queue.attachAck = some entry →
    entry.1.sessionId = id ∧ entry.1.kind = .ack ∧ owner = some entry.2
  inputAck : ∀ frame, queue.inputAck = some frame → frame.kind = .inputAck

def PoppedClean (past : List Action) (id : String) (owner : Option Origin) : Popped → Prop
  | .attachAck frame origin => frame.sessionId = id ∧ frame.kind = .ack ∧ owner = some origin
  | .evictionGap frame evicted => frame.sessionId = id ∧ ∀ origin ∈ evicted,
      owner = some origin ∨ origin = .socket ∧ Noticed past id
  | .inputAck frame => frame.kind = .inputAck
  | .queued frame origin => EntryClean past id owner (frame, origin)

variable {past : List Action} {id : String} {owner : Option Origin} {queue after : TracedQueue}
  {frame : TerminalFrame} {origin : Origin}

theorem Noticed.later (noticed : Noticed past id) (action : Action) :
    Noticed (past ++ [action]) id := by
  obtain ⟨frame,queued,same⟩ := noticed
  exact ⟨frame,mem_append_left _ queued,same⟩

theorem EntryClean.later (clean : EntryClean past id owner entry)
    (action : Action) : EntryClean (past ++ [action]) id owner entry :=
  ⟨clean.1,clean.2.imp_right fun notice => ⟨notice.1,notice.2.1,notice.2.2.later action⟩⟩

theorem QueueClean.later (clean : QueueClean past id owner queue) (action : Action) :
    QueueClean (past ++ [action]) id owner queue where
  frames := fun entry queued => (clean.frames entry queued).later action
  evicted := fun origin dropped =>
    (clean.evicted origin dropped).imp_right fun notice => ⟨notice.1,notice.2.later action⟩
  attachAck := clean.attachAck
  inputAck := clean.inputAck

theorem empty_clean : QueueClean past id owner .empty where
  frames := nofun
  evicted := nofun
  attachAck := nofun
  inputAck := nofun

theorem evicted_clean (clean : QueueClean past id owner queue) :
    ∀ origin ∈ queue.evicted ++ (queue.frames.head?.map Prod.snd).toList,
      owner = some origin ∨ origin = .socket ∧ Noticed past id := by
  intro origin dropped
  rcases mem_append.mp dropped with pre | oldest
  · exact clean.evicted origin pre
  obtain ⟨entry,first,same⟩ := Option.map_eq_some_iff.mp (Option.mem_toList.mp oldest)
  have known := (clean.frames entry (mem_of_mem_head? first)).2
  rw [same] at known
  exact known.imp And.right And.right

theorem push_clean (clean : QueueClean past id owner queue) (notAck : frame.kind ≠ .ack)
    (entry : frame.kind ≠ .inputAck → EntryClean past id owner (frame, origin)) :
    QueueClean past id owner (queue.push frame origin) := by
  have appended : frame.kind ≠ .inputAck → ∀ kept : List (TerminalFrame × Origin),
      kept ⊆ queue.frames → ∀ entry ∈ kept ++ [(frame, origin)],
        EntryClean past id owner entry := by
    intro queued kept subset other member
    rcases mem_append.mp member with old | new
    · exact clean.frames other (subset old)
    · exact mem_singleton.mp new ▸ entry queued
  unfold TracedQueue.push
  rw [if_neg notAck]
  by_cases input : frame.kind = .inputAck
  · rw [if_pos input]
    split
    · exact ⟨clean.frames,clean.evicted,clean.attachAck,
        fun pending same => Option.some.inj same ▸ input⟩
    · exact clean
  · rw [if_neg input]
    split
    · exact ⟨appended input _ (fun _ => mem_of_mem_tail),evicted_clean clean,clean.attachAck,
        clean.inputAck⟩
    · exact ⟨appended input _ (.refl _),clean.evicted,clean.attachAck,clean.inputAck⟩

theorem push_ack_clean (clean : QueueClean past id previous queue)
    (drained : queue.evicted = [] ∧ ∀ entry ∈ queue.frames, isPumped entry.1.kind = false)
    (acked : frame.kind = .ack) (same : frame.sessionId = id) :
    QueueClean past id (some origin) (queue.push frame origin) := by
  rw [TracedQueue.push, if_pos acked]
  refine ⟨fun entry queued => ?_,?_,?_,clean.inputAck⟩
  · obtain ⟨sess,pumped | notice⟩ := clean.frames entry queued
    · exact absurd pumped.1 (by rw [drained.2 entry queued]; decide)
    · exact ⟨sess,.inr notice⟩
  · intro origin dropped
    dsimp only at dropped
    rw [drained.1] at dropped
    cases dropped
  · intro entry hit
    cases hit
    exact ⟨same,acked,rfl⟩

theorem turn_clean (clean : QueueClean past id owner queue)
    (turned : queue.turn id = (popped, after)) :
    QueueClean past id owner after ∧
      ∀ hit, popped = some (some hit) → PoppedClean past id owner hit := by
  unfold TracedQueue.turn at turned
  split at turned
  · next frame origin acked =>
    cases turned
    refine ⟨⟨clean.frames,clean.evicted,nofun,clean.inputAck⟩,fun hit same => ?_⟩
    cases same
    exact clean.attachAck _ acked
  · next none =>
    split at turned
    · cases turned
      refine ⟨⟨clean.frames,nofun,clean.attachAck,clean.inputAck⟩,fun hit same => ?_⟩
      obtain ⟨next,-,made⟩ := Option.map_eq_some_iff.mp (Option.some.inj same)
      cases made
      exact ⟨rfl,clean.evicted⟩
    · split at turned
      · next frame input =>
        cases turned
        refine ⟨⟨clean.frames,clean.evicted,clean.attachAck,nofun⟩,fun hit same => ?_⟩
        cases same
        exact clean.inputAck _ input
      · split at turned
        · next frame origin rest waiting =>
          cases turned
          have all := clean.frames
          rw [waiting] at all
          refine ⟨⟨fun entry queued => all entry (mem_cons_of_mem _ queued),clean.evicted,
            clean.attachAck,clean.inputAck⟩,fun hit same => ?_⟩
          cases same
          exact all _ mem_cons_self
        · cases turned
          exact ⟨clean,nofun⟩

def BufferClean (past : List Action) (owners : String → Option Origin) (buffer : TracedBuffer) :
    Prop :=
  ∀ id queue, buffer.attachments.lookup id = some queue → QueueClean past id (owners id) queue

variable {owners : String → Option Origin} {buffer : TracedBuffer}

theorem insert_clean (others : ∀ other ≠ id, owners other = previous other)
    (clean : BufferClean past previous buffer) (here : QueueClean past id (owners id) queue)
    (order : List String) :
    BufferClean past owners ⟨buffer.attachments.insert id queue, order⟩ := by
  intro other hit present
  rcases lookup_insert_cases present with ⟨rfl,rfl⟩ | ⟨apart,present⟩
  · exact here
  · exact others other apart ▸ clean other hit present

theorem enqueue_clean (others : ∀ other ≠ frame.sessionId, owners other = previous other)
    (clean : BufferClean past previous buffer)
    (pushed : ∀ queue, buffer.attachments.lookup frame.sessionId = some queue ∨ queue = .empty →
      QueueClean past frame.sessionId (previous frame.sessionId) queue →
      QueueClean past frame.sessionId (owners frame.sessionId) (queue.push frame origin)) :
    BufferClean past owners (buffer.enqueue frame origin) := by
  unfold TracedBuffer.enqueue
  cases hit : buffer.attachments.lookup frame.sessionId with
  | some queue =>
    exact insert_clean others clean (pushed queue (.inl hit) (clean _ _ hit)) _
  | none => exact insert_clean others clean (pushed _ (.inr rfl) empty_clean) _

theorem popTurns_clean (turns : Nat) (clean : BufferClean past owners buffer) :
    BufferClean past owners (buffer.popTurns turns).2 ∧
      ∀ hit, (buffer.popTurns turns).1 = some hit → ∃ id, PoppedClean past id (owners id) hit := by
  induction turns generalizing buffer with
  | zero => exact ⟨clean,nofun⟩
  | succ turns ih =>
    unfold TracedBuffer.popTurns
    cases buffer.roundRobin with
    | nil => exact ⟨clean,nofun⟩
    | cons id rest =>
      dsimp only
      cases here : buffer.attachments.lookup id with
      | none => exact ⟨clean,nofun⟩
      | some queue =>
        dsimp only
        cases turned : queue.turn id with
        | mk popped left =>
          have step := turn_clean (clean id queue here) turned
          have kept := insert_clean (fun _ _ => rfl) clean step.1 (rest ++ [id])
          cases popped with
          | some popped => exact ⟨kept,fun hit same => ⟨id,step.2 hit (congrArg some same)⟩⟩
          | none => exact ih kept

structure Isolated (past : List Action) (connection : Connection) : Prop where
  queues : BufferClean past connection.owners connection.buffer
  current : ∀ id attachment, connection.current.lookup id = some attachment →
    connection.owners id = some (.pump attachment)

variable {conn : Connection} {payload : List UInt8}

theorem BufferClean.later (clean : BufferClean past owners buffer) (action : Action) :
    BufferClean (past ++ [action]) owners buffer :=
  fun id queue here => (clean id queue here).later action

section
variable (isolated : Isolated past conn)
include isolated

theorem attach_isolated (drained : Drained conn frame.sessionId) :
    Isolated past (conn.attach frame payload) := by
  have others : ∀ other ≠ frame.sessionId,
      (conn.attach frame payload).owners other = conn.owners other := by
    intro other different
    rw [Connection.owners, Connection.attach, AList.lookup_insert_ne different, Connection.owners]
  have here : (conn.attach frame payload).owners frame.sessionId =
      some (.pump conn.attachments) := by
    rw [Connection.owners, Connection.attach, AList.lookup_insert, Option.map_some]
  refine ⟨enqueue_clean others isolated.queues fun queue present clean => ?_,?_⟩
  · rw [here]
    refine push_ack_clean clean ?_ rfl rfl
    rcases present with hit | fresh
    · exact drained queue hit
    · rw [fresh]
      exact ⟨rfl,nofun⟩
  · intro id att known
    obtain ⟨apart,known⟩ := lookup_erase_some known
    rw [others id apart]
    exact isolated.current id att known

theorem detach_isolated : Isolated past (conn.detach frame) := by
  unfold Connection.detach
  split
  · -- Nothing is said of the Session any more, and the other ones are as before.
    constructor
    · intro id queue here
      obtain ⟨apart,here⟩ := lookup_erase_some here
      rw [Connection.owners, AList.lookup_erase_ne apart]
      exact isolated.queues id queue here
    · intro id att known
      obtain ⟨apart,known⟩ := lookup_erase_some known
      rw [Connection.owners, AList.lookup_erase_ne apart]
      exact isolated.current id att known
  · exact isolated

theorem pump_isolated
    (spawned : conn.attachmentTasks.lookup id = some task) (pumped : isPumped kind) :
    Isolated past (conn.pump id task kind payload) := by
  have owned : (conn.pump id task kind payload).owners = conn.owners := by
    funext other
    by_cases same : other = id
    · rw [same, Connection.owners, Connection.pump, AList.lookup_insert, Connection.owners, spawned]
      rfl
    · rw [Connection.owners, Connection.pump, AList.lookup_insert_ne same, Connection.owners]
  have mine : conn.owners id = some (.pump task.attachment) := by
    rw [Connection.owners, spawned, Option.map_some]
  constructor
  · rw [owned]
    refine enqueue_clean (fun _ _ => rfl) isolated.queues fun queue _ clean => ?_
    refine push_clean clean ?_ fun _ => ⟨rfl,.inl ⟨pumped,mine⟩⟩
    rintro (acked : kind = .ack)
    rw [acked] at pumped
    cases pumped
  · rw [owned]
    exact isolated.current

theorem notice_isolated (noticed : isNotice frame.kind) (queued : Noticed past frame.sessionId) :
    Isolated past (conn.notice frame) := by
  refine ⟨enqueue_clean (fun _ _ => rfl) isolated.queues fun queue _ clean => ?_,isolated.current⟩
  refine push_clean clean ?_ fun _ => ⟨rfl,.inr ⟨?_,rfl,queued⟩⟩
  · intro acked
    rw [acked] at noticed
    cases noticed
  · cases kind : frame.kind <;> rw [kind] at noticed <;> first | rfl | cases noticed

theorem popFair_isolated : Isolated past conn.popFair := by
  obtain ⟨queues,popped⟩ := popTurns_clean conn.buffer.roundRobin.length isolated.queues
  refine ⟨queues,fun id att known => ?_⟩
  change (conn.read conn.buffer.popFair.1).lookup id = some att at known
  unfold Connection.read at known
  split at known
  · next frame made read =>
    obtain ⟨sess,rfl,-,owned⟩ := popped _ read
    rcases lookup_insert_cases known with ⟨rfl,rfl⟩ | ⟨-,known⟩
    · exact owned
    · exact isolated.current id att known
  · exact isolated.current id att known

theorem step_isolated (drained : AttachesDrained conn action) (step : Step conn action new) :
    Isolated (past ++ [action]) new := by
  have later : Isolated (past ++ [action]) conn :=
    ⟨isolated.queues.later action,isolated.current⟩
  cases step with
  | attach => exact attach_isolated later drained
  | detach => exact detach_isolated later
  | pump _ _ _ _ spawned _ pumped => exact pump_isolated later spawned pumped
  | notice frame noticed =>
    exact notice_isolated later noticed ⟨frame,mem_append_right _ mem_cons_self,rfl⟩
  | popFair => exact popFair_isolated later

end

/-- When every Attach finds the queue without frames of a pump, a client past an
    acknowledgement reads that attachment's output only. -/
theorem popped_output_is_of_current_attachment {past : List Action} {connection : Connection}
    (run : Run (Guarded AttachesDrained Step) .fresh past connection) {popped : Popped}
    (read : connection.buffer.popFair.1 = some popped) (pumped : isPumped popped.frame.kind = true)
    {attachment : Nat}
    (acked : connection.current.lookup popped.frame.sessionId = some attachment) :
    popped.OfPump past attachment := by
  have start : Isolated [] Connection.fresh := ⟨nofun,nofun⟩
  have isolated : Isolated past connection := run_history_invariant Isolated
    (fun isolated step => step_isolated isolated step.1 step.2) run [] start
  have onlyOne : ∀ origin, connection.owners popped.frame.sessionId = some origin →
      origin = .pump attachment := by
    intro origin ours
    rw [isolated.current _ _ acked] at ours
    exact (Option.some.inj ours).symm
  obtain ⟨id,clean⟩ := (popTurns_clean _ isolated.queues).2 popped read
  cases popped with
  | attachAck frame origin =>
    rw [Popped.frame, clean.2.1] at pumped
    cases pumped
  | inputAck frame =>
    have kind : frame.kind = .inputAck := clean
    rw [Popped.frame, kind] at pumped
    cases pumped
  | evictionGap frame evicted =>
    obtain ⟨rfl,dropped⟩ := clean
    exact fun origin lost => (dropped origin lost).imp_left (onlyOne origin)
  | queued frame origin =>
    obtain ⟨rfl,ours | notice⟩ := clean
    · exact onlyOne origin ours.2
    · exact absurd (pumped.symm.trans notice.1) nofun

def request : TerminalFrame := ⟨"s", 1, 0, .attach, []⟩

def pumping : Connection := (Connection.fresh.attach request []).pump "s" ⟨0, 1, 1, true⟩ .output [65]

def again : Connection := pumping.popFair.popFair.attach request []

/-- The client reads all output of the first attachment, attaches again and reads on. -/
theorem second_output_is_of_second_attachment :
    ∃ past connection popped, Run (Guarded AttachesDrained Step) .fresh past connection ∧
      connection.buffer.popFair.1 = some popped ∧ popped.frame.kind = .output ∧
        connection.current.lookup "s" = some 1 ∧ popped.OfPump past 1 := by
  have drained :
      Guarded AttachesDrained Step pumping.popFair.popFair (.attach request []) again := by
    refine ⟨fun queue here => ?_,.attach _ _ _⟩
    cases here
    exact ⟨rfl,nofun⟩
  have run : Run (Guarded AttachesDrained Step) .fresh
      [.attach request [], .pump "s" .output [65], .popFair, .popFair, .attach request [], .popFair,
        .pump "s" .output [66]] (again.popFair.pump "s" ⟨1,1,1,true⟩ .output [66]) :=
    .cons ⟨nofun,.attach _ _ _⟩ (.cons ⟨trivial,.pump _ _ _ _ _ rfl rfl rfl⟩
      (.cons ⟨trivial,.popFair _⟩ (.cons ⟨trivial,.popFair _⟩ (.cons drained
        (.cons ⟨trivial,.popFair _⟩ (run_single ⟨trivial,.pump _ _ _ _ _ rfl rfl rfl⟩))))))
  exact ⟨_,_,.queued ⟨"s",1,1,.output,[66]⟩ (.pump 1),run,rfl,rfl,rfl,
    popped_output_is_of_current_attachment run rfl rfl rfl⟩

/-- The client reads output of the first pump after the acknowledgement of the second
    Attach. -/
theorem stale_output_follows_new_acknowledgement : ∃ past connection popped attachment,
      Run Step .fresh past connection ∧ connection.buffer.popFair.1 = some popped ∧
        isPumped popped.frame.kind = true ∧
          connection.current.lookup popped.frame.sessionId = some attachment ∧
            ¬ popped.OfPump past attachment := by
  have run : Run Step .fresh
      [.attach request [], .pump "s" .output [65], .attach request [], .popFair]
      (pumping.attach request []).popFair :=
    .cons (.attach _ _ _) (.cons (.pump _ _ _ _ _ rfl rfl rfl)
      (.cons (.attach _ _ _) (run_single (.popFair _))))
  exact ⟨_,_,.queued ⟨"s",1,1,.output,[65]⟩ (.pump 0),1,run,rfl,rfl,rfl,nofun⟩

end Isolation
end TermloopAttach
