import Termloop.Lib.KeyedTables
import Termloop.Lib.Operations

/-!
What a terminal connection sends back. Every attached Session has a bounded queue of
its own and two places for acknowledgements, which the writer looks at before the
queue; the Sessions take turns.
-/
namespace TermloopOutbound
open TermloopSaturating TermloopKeyed List

inductive FrameKind where
  | input | output | resize | gap | eof | replayOutput | attach | ack | error | focus
  | resizeOwnership | detach | inputAck | enableInputAck
  deriving DecidableEq

structure TerminalFrame where
  sessionId : String
  (epoch sequence : Nat)
  kind : FrameKind
  payload : List UInt8
  deriving DecidableEq

def maxAttachmentFrames : Nat := 256

structure AttachmentQueue where
  frames : List TerminalFrame
  dropped : Nat
  (attachAck inputAck : Option TerminalFrame)

structure OutboundBuffer where
  attachments : AList fun _ : String => AttachmentQueue
  roundRobin : List String

def toBeBytes (value : Nat) : List UInt8 :=
  (List.range 8).map fun place => UInt8.ofNat (value >>> (8 * (7 - place)))

namespace AttachmentQueue

def empty : AttachmentQueue := ⟨[], 0, none, none⟩

def push (queue : AttachmentQueue) (frame : TerminalFrame) : AttachmentQueue :=
  if frame.kind = .ack then { queue with attachAck := some frame }
  else if frame.kind = .inputAck then
    if queue.inputAck.all fun pending =>
        pending.epoch != frame.epoch || decide (pending.sequence < frame.sequence) then
      { queue with inputAck := some frame }
    else queue
  else if queue.frames.length = maxAttachmentFrames then
    { queue with
      frames := queue.frames.tail ++ [frame], dropped := saturatingAdd queue.dropped 1 }
  else { queue with frames := queue.frames ++ [frame] }

/-- The gap that stands for dropped frames comes before the oldest frame that is left. -/
def gapFrame (id : String) (dropped : Nat) (next : TerminalFrame) : TerminalFrame :=
  { sessionId := id, epoch := next.epoch, sequence := next.sequence - 1, kind := .gap
    payload := toBeBytes dropped }

/-- `none` lets the next Session have its turn; otherwise the pop returns what it has found.
    -/
def turn (id : String) (queue : AttachmentQueue) :
    Option (Option TerminalFrame) × AttachmentQueue :=
  match queue.attachAck with
  | some frame => (some (some frame), { queue with attachAck := none })
  | none =>
    if queue.dropped > 0 then
      (some (queue.frames.head?.map (gapFrame id queue.dropped)), { queue with dropped := 0 })
    else
      match queue.inputAck with
      | some frame => (some (some frame), { queue with inputAck := none })
      | none =>
        match queue.frames with
        | frame :: rest => (some (some frame), { queue with frames := rest })
        | [] => (none, queue)

end AttachmentQueue

namespace OutboundBuffer

def empty : OutboundBuffer := ⟨∅, []⟩

def enqueue (buffer : OutboundBuffer) (frame : TerminalFrame) : OutboundBuffer :=
  match buffer.attachments.lookup frame.sessionId with
  | some queue =>
    { buffer with attachments := buffer.attachments.insert frame.sessionId (queue.push frame) }
  | none =>
    { attachments := buffer.attachments.insert frame.sessionId
        (AttachmentQueue.empty.push frame)
      roundRobin := buffer.roundRobin ++ [frame.sessionId] }

def popTurns : Nat → OutboundBuffer → Option TerminalFrame × OutboundBuffer
  | 0, buffer => (none, buffer)
  | turns + 1, buffer =>
    match buffer.roundRobin with
    | [] => (none, buffer)
    | id :: rest =>
      let buffer := { buffer with roundRobin := rest ++ [id] }
      match buffer.attachments.lookup id with
      | none => (none, buffer)
      | some queue =>
        match queue.turn id with
        | (some popped, queue) =>
          (popped, { buffer with attachments := buffer.attachments.insert id queue })
        | (none, queue) =>
          popTurns turns { buffer with attachments := buffer.attachments.insert id queue }

def popFair (buffer : OutboundBuffer) : Option TerminalFrame × OutboundBuffer :=
  popTurns buffer.roundRobin.length buffer

def detach (buffer : OutboundBuffer) (sessionId : String) : OutboundBuffer :=
  { attachments := buffer.attachments.erase sessionId
    roundRobin := buffer.roundRobin.filter fun candidate => candidate != sessionId }

end OutboundBuffer

section Turns
variable {buffer : OutboundBuffer}

/-- A Session without a queue has nothing to send. -/
def OutboundBuffer.queueOf (buffer : OutboundBuffer) (id : String) : AttachmentQueue :=
  (buffer.attachments.lookup id).getD .empty

inductive Turn (id : String) (queue : AttachmentQueue) :
    Option (Option TerminalFrame) → AttachmentQueue → Prop where
  | attachAck {frame : TerminalFrame} (acked : queue.attachAck = some frame) :
      Turn id queue (some (some frame)) { queue with attachAck := none }
  | gap (owed : 0 < queue.dropped) :
      Turn id queue (some (queue.frames.head?.map (AttachmentQueue.gapFrame id queue.dropped)))
        { queue with dropped := 0 }
  | inputAck {frame : TerminalFrame} (acked : queue.inputAck = some frame) :
      Turn id queue (some (some frame)) { queue with inputAck := none }
  | queued {frame : TerminalFrame} {rest : List TerminalFrame} (paid : queue.dropped = 0)
      (waiting : queue.frames = frame :: rest) :
      Turn id queue (some (some frame)) { queue with frames := rest }
  | idle (empty : queue = .empty) : Turn id queue none queue

theorem turn_turns (id : String) (queue : AttachmentQueue) :
    Turn id queue (queue.turn id).1 (queue.turn id).2 := by
  unfold AttachmentQueue.turn
  split
  · next acked => exact .attachAck acked
  next unacked =>
  split
  · next owed => exact .gap owed
  next paid =>
  have paid := Nat.eq_zero_of_not_pos paid
  split
  · next acked => exact .inputAck acked
  next silent =>
  split
  · next waiting => exact .queued paid waiting
  · next nothing =>
    obtain ⟨frames,dropped,attachAck,inputAck⟩ := queue
    cases nothing
    cases paid
    cases unacked
    cases silent
    exact .idle rfl

/-- A pop that looks at the Sessions of `todo`, with those of `behind` after them. -/
inductive Pops (buffer : OutboundBuffer) (todo behind : List String) :
    Option TerminalFrame → OutboundBuffer → Prop where
  | served (skipped : List String) {rest : List String} {id : String} {queue left : AttachmentQueue}
      {popped : Option TerminalFrame} {after : OutboundBuffer}
      (order : todo = skipped ++ id :: rest)
      (idle : ∀ other ∈ skipped, buffer.queueOf other = .empty)
      (listed : buffer.attachments.lookup id = some queue)
      (turned : Turn id queue (some popped) left)
      (turns : after.roundRobin = rest ++ behind ++ skipped ++ [id])
      (queues : ∀ other, after.attachments.lookup other =
        if other = id then some left else buffer.attachments.lookup other) :
      Pops buffer todo behind popped after
  | none {after : OutboundBuffer}
      (idle : (∀ id ∈ todo, buffer.attachments.lookup id ≠ none) →
        (∀ id ∈ todo, buffer.queueOf id = .empty) ∧ after.roundRobin = behind ++ todo)
      (queues : ∀ id, after.attachments.lookup id = buffer.attachments.lookup id) :
      Pops buffer todo behind none after

theorem popTurns_pops (todo : List String) (order : buffer.roundRobin = todo ++ behind) :
    Pops buffer todo behind (buffer.popTurns todo.length).1 (buffer.popTurns todo.length).2 := by
  induction todo generalizing behind buffer with
  | nil => exact .none (fun _ => ⟨nofun,by rw [append_nil]; exact order⟩) fun _ => rfl
  | cons id todo ih =>
    rw [length_cons, OutboundBuffer.popTurns, order, cons_append]
    dsimp only
    cases mem : buffer.attachments.lookup id with
    | none => exact .none (fun known => absurd mem (known id mem_cons_self)) fun _ => rfl
    | some queue =>
      have turned := turn_turns id queue
      dsimp only
      generalize queue.turn id = ans at turned
      obtain ⟨hit,left⟩ := ans
      cases hit with
      | some popped =>
        exact .served [] rfl nofun mem turned (by simp) fun _ => lookup_insert_if
      | none =>
        have empty : queue = .empty ∧ left = queue := by
          cases turned with
          | idle empty => exact ⟨empty,rfl⟩
        obtain ⟨empty,rfl⟩ := empty
        let next : OutboundBuffer := ⟨buffer.attachments.insert id left,todo ++ behind ++ [id]⟩
        have same : ∀ other, next.attachments.lookup other = buffer.attachments.lookup other := by
          intro other
          rw [lookup_insert_if]
          split
          · next mine => rw [mine, mem]
          · rfl
        have idle : ∀ {ids : List String}, (∀ other ∈ ids, next.queueOf other = .empty) →
            ∀ other ∈ id :: ids, buffer.queueOf other = .empty := by
          intro ids rest other member
          rw [OutboundBuffer.queueOf, ← same]
          rcases mem_cons.mp member with mine | later
          · rw [mine, same, mem, Option.getD_some, empty]
          · exact rest other later
        have pops := @ih next (behind ++ [id]) (append_assoc _ _ _)
        dsimp only
        generalize next.popTurns todo.length = ans at pops
        obtain ⟨popped,after⟩ := ans
        cases pops with
        | served skipped order quiet hit turned turns queues =>
          refine .served (id :: skipped) (by rw [order, cons_append]) (idle quiet)
            ((same _).symm.trans hit) turned (by simpa using turns) fun other => ?_
          rw [queues, same]
        | none quiet queues =>
          refine .none (fun known => ?_) fun other => (queues other).trans (same other)
          obtain ⟨none_left,turns⟩ := quiet fun other member =>
            same other ▸ known other (mem_cons_of_mem _ member)
          exact ⟨idle none_left,by simpa using turns⟩

end Turns

section Contents

def AttachmentQueue.Carries (queue : AttachmentQueue) (frame : TerminalFrame) : Prop :=
  queue.attachAck = some frame ∨ queue.inputAck = some frame ∨ frame ∈ queue.frames

def OutboundBuffer.Holds (buffer : OutboundBuffer) (frame : TerminalFrame) : Prop :=
  ∃ id queue, buffer.attachments.lookup id = some queue ∧ queue.Carries frame

variable {queue after : AttachmentQueue} {buffer : OutboundBuffer} {frame other : TerminalFrame}
  {id : String}

theorem not_carries_empty : ¬ AttachmentQueue.empty.Carries frame := by
  rintro (acked | acked | queued)
  · cases acked
  · cases acked
  · cases queued

theorem push_carries (carries : (queue.push frame).Carries other) :
    other = frame ∨ queue.Carries other := by
  unfold AttachmentQueue.push at carries
  split at carries
  · rcases carries with acked | input | queued
    · exact .inl (Option.some.inj acked).symm
    · exact .inr (.inr (.inl input))
    · exact .inr (.inr (.inr queued))
  · split at carries
    · split at carries
      · rcases carries with acked | input | queued
        · exact .inr (.inl acked)
        · exact .inl (Option.some.inj input).symm
        · exact .inr (.inr (.inr queued))
      · exact .inr carries
    · split at carries
      · rcases carries with acked | input | queued
        · exact .inr (.inl acked)
        · exact .inr (.inr (.inl input))
        · rcases mem_append.mp queued with old | new
          · exact .inr (.inr (.inr (mem_of_mem_tail old)))
          · exact .inl (mem_singleton.mp new)
      · rcases carries with acked | input | queued
        · exact .inr (.inl acked)
        · exact .inr (.inr (.inl input))
        · rcases mem_append.mp queued with old | new
          · exact .inr (.inr (.inr old))
          · exact .inl (mem_singleton.mp new)

theorem turn_carries (turned : Turn id queue popped after) :
    (∀ frame, popped = some (some frame) → queue.Carries frame ∨ frame.kind = .gap) ∧
      ∀ frame, after.Carries frame → queue.Carries frame := by
  cases turned with
  | attachAck acked =>
    refine ⟨fun frame hit => .inl (.inl ?_),fun frame carries => carries.imp_left nofun⟩
    cases hit
    exact acked
  | gap =>
    refine ⟨fun frame hit => .inr ?_,fun frame carries => carries⟩
    obtain ⟨next,-,made⟩ := Option.map_eq_some_iff.mp (Option.some.inj hit)
    exact made ▸ rfl
  | inputAck acked =>
    refine ⟨fun frame hit => .inl (.inr (.inl ?_)),fun frame carries => ?_⟩
    · cases hit
      exact acked
    · exact carries.imp_right fun rest => rest.imp_left nofun
  | queued _ waiting =>
    refine ⟨fun frame hit => .inl (.inr (.inr ?_)),fun frame carries => ?_⟩
    · cases hit
      exact waiting ▸ mem_cons_self
    · refine carries.imp_right fun left => left.imp_right fun here => ?_
      exact waiting ▸ mem_cons_of_mem _ here
  | idle => exact ⟨nofun,fun frame carries => carries⟩

theorem enqueue_holds (holds : (buffer.enqueue frame).Holds other) :
    other = frame ∨ buffer.Holds other := by
  unfold OutboundBuffer.enqueue at holds
  split at holds
  · next queue mem =>
    obtain ⟨id,hit,here,carries⟩ := holds
    rcases lookup_insert_cases here with ⟨-,rfl⟩ | ⟨-,old⟩
    · exact (push_carries carries).imp_right fun old => ⟨_,queue,mem,old⟩
    · exact .inr ⟨id,hit,old,carries⟩
  · obtain ⟨id,hit,here,carries⟩ := holds
    rcases lookup_insert_cases here with ⟨-,rfl⟩ | ⟨-,old⟩
    · exact (push_carries carries).imp_right fun old => absurd old not_carries_empty
    · exact .inr ⟨id,hit,old,carries⟩

theorem popFair_holds (pop : buffer.popFair = (popped, rest)) :
    (∀ frame, popped = some frame → buffer.Holds frame ∨ frame.kind = .gap) ∧
      ∀ frame, rest.Holds frame → buffer.Holds frame := by
  have pops := popTurns_pops buffer.roundRobin (append_nil _).symm
  rw [← OutboundBuffer.popFair, pop] at pops
  cases pops with
  | served _ _ _ mem turned _ queues =>
    obtain ⟨taken,kept⟩ := turn_carries turned
    refine ⟨fun frame hit => ?_,?_⟩
    · exact (taken frame (congrArg some hit)).imp_left fun carries => ⟨_,_,mem,carries⟩
    · rintro frame ⟨id,hit,here,carries⟩
      rw [queues] at here
      split at here
      · cases here
        exact ⟨_,_,mem,kept frame carries⟩
      · exact ⟨id,hit,here,carries⟩
  | none _ queues =>
    exact ⟨nofun,fun _ ⟨id,hit,here,carries⟩ => ⟨id,hit,queues id ▸ here,carries⟩⟩

end Contents

end TermloopOutbound
