import Termloop.Lib.Runs
import Termloop.Server.OutboundBuffer

/-!
The outbound buffer over whole runs. A frame that a Session is not sent is told by a gap or
goes with a detach, and a Session that waits is not passed over for long.
-/
namespace TermloopScheduling
open TermloopOutbound TermloopRuns TermloopSaturating TermloopKeyed List

inductive Event where
  | enqueue (frame : TerminalFrame)
  | pop (popped : Option TerminalFrame)
  | detach (sessionId : String)
  deriving DecidableEq

inductive Step (buffer : OutboundBuffer) : Event → OutboundBuffer → Prop where
  | enqueue (frame : TerminalFrame) : Step buffer (.enqueue frame) (buffer.enqueue frame)
  | pop {popped : Option TerminalFrame} {after : OutboundBuffer}
      (pop : buffer.popFair = (popped, after)) : Step buffer (.pop popped) after
  | detach (id : String) : Step buffer (.detach id) (buffer.detach id)

/-- Acknowledgements have places of their own and are not queued. -/
def isQueued (frame : TerminalFrame) : Bool := frame.kind != .ack && frame.kind != .inputAck

/-- What comes in for a Session: frames, and `none` where a detach ends its queue. -/
abbrev Arrivals : Type := List (Option TerminalFrame)

def Event.adds (id : String) : Event → Option (Option TerminalFrame)
  | .enqueue frame => if isQueued frame ∧ frame.sessionId = id then some (some frame) else none
  | .detach gone => if gone = id then some none else none
  | .pop _ => none

def Event.sends (id : String) : Event → Option TerminalFrame
  | .pop (some frame) => if isQueued frame ∧ frame.sessionId = id then some frame else none
  | _ => none

def received (id : String) (events : List Event) : Arrivals :=
  events.filterMap (Event.adds id)

def sent (id : String) (events : List Event) : List TerminalFrame :=
  events.filterMap (Event.sends id)

/-- What `told` says of the frames that came in, where `came` is all that came: a frame was
    sent, a gap counts the frames left out before the next one, or a detach took the rest. -/
inductive Shown (id : String) (came : Arrivals) :
    Arrivals → List TerminalFrame → Prop where
  | nil : Shown id came [] []
  | frame {told : Arrivals} {sent : List TerminalFrame} (frame : TerminalFrame)
      (before : Shown id came told sent) : Shown id came (told ++ [some frame]) (sent ++ [frame])
  | gap {told : Arrivals} {sent evicted : List TerminalFrame}
      {next : TerminalFrame} (before : Shown id came told sent) (lost : evicted ≠ [])
      (follows : told ++ evicted.map some ++ [some next] <+: came) :
      Shown id came (told ++ evicted.map some)
        (sent ++ [AttachmentQueue.gapFrame id (min evicted.length u64Max) next])
  | detach {told : Arrivals} {sent : List TerminalFrame}
      (rest : List TerminalFrame) (before : Shown id came told sent) :
      Shown id came (told ++ rest.map some ++ [none]) sent

section Queues
variable {id : String} {queue after : AttachmentQueue} {frame : TerminalFrame}
  {came more : Arrivals} {out : List TerminalFrame}

theorem shown_later {told : Arrivals} (shown : Shown id came told out) :
    Shown id (came ++ more) told out := by
  induction shown with
  | nil => exact .nil
  | frame frame _ ih => exact .frame frame ih
  | gap _ lost follows ih => exact .gap ih lost (follows.trans (prefix_append _ _))
  | detach rest _ ih => exact .detach rest ih

/-- The frames of `told` have left the queue, and those of `evicted` wait for their gap. -/
def Accounted (id : String) (queue : AttachmentQueue) (came : Arrivals)
    (out : List TerminalFrame) : Prop :=
  ∃ told evicted, came = told ++ (evicted ++ queue.frames).map some ∧ Shown id came told out ∧
    queue.dropped = min evicted.length u64Max ∧ (evicted ≠ [] → queue.frames ≠ []) ∧
    queue.frames.length ≤ maxAttachmentFrames

structure Kept (id : String) (queue : AttachmentQueue) (came : Arrivals)
    (out : List TerminalFrame) : Prop where
  told : Accounted id queue came out
  own : ∀ frame ∈ queue.frames, frame.sessionId = id ∧ isQueued frame = true
  acks : ∀ frame, queue.attachAck = some frame ∨ queue.inputAck = some frame →
    frame.sessionId = id ∧ isQueued frame = false

theorem kept_push (kept : Kept id queue came out) (mine : frame.sessionId = id) :
    Kept id (queue.push frame) (came ++ if isQueued frame then [some frame] else []) out := by
  unfold AttachmentQueue.push
  by_cases ack : frame.kind = .ack
  · have unqueued : isQueued frame = false := by simp [isQueued, ack]
    rw [if_pos ack, unqueued, if_neg Bool.false_ne_true, append_nil]
    exact { kept with acks := by grind [kept.acks] }
  rw [if_neg ack]
  by_cases input : frame.kind = .inputAck
  · have unqueued : isQueued frame = false := by simp [isQueued, input]
    rw [if_pos input, unqueued, if_neg Bool.false_ne_true, append_nil]
    split
    · exact { kept with acks := by grind [kept.acks] }
    · exact kept
  have queued : isQueued frame := by simp [isQueued, ack, input]
  rw [if_neg input, if_pos queued]
  obtain ⟨told,evicted,order,shown,counted,front,few⟩ := kept.told
  by_cases full : queue.frames.length = maxAttachmentFrames
  · rw [if_pos full]
    cases shape : queue.frames with
    | nil =>
      rw [shape] at full
      cases full
    | cons first rest =>
      -- The oldest frame moves from the queue to those the next gap counts.
      refine ⟨⟨told,evicted ++ [first],?_,shown_later shown,?_,?_,?_⟩,?_,kept.acks⟩
      · simp [order, shape]
      · simp [counted, saturatingAdd_counts]
      · simp
      · simpa [shape] using Nat.le_of_eq full
      · grind [kept.own]
  · rw [if_neg full]
    refine ⟨⟨told,evicted,?_,shown_later shown,counted,?_,?_⟩,?_,kept.acks⟩
    · simp [order]
    · simp
    · simp only [length_append, length_singleton]
      omega
    · grind [kept.own]

theorem kept_turn {popped : Option TerminalFrame} (kept : Kept id queue came out)
    (turned : Turn id queue (some popped) after) : ∃ frame, popped = some frame ∧
      frame.sessionId = id ∧
      Kept id after came (out ++ if isQueued frame then [frame] else []) := by
  obtain ⟨told,evicted,order,shown,counted,front,few⟩ := kept.told
  cases turned with
  | @attachAck frame acked =>
    obtain ⟨mine,unqueued⟩ := kept.acks frame (.inl acked)
    refine ⟨frame,rfl,mine,?_⟩
    rw [unqueued, if_neg Bool.false_ne_true, append_nil]
    exact { kept with acks := by grind [kept.acks] }
  | gap owed =>
    have lost : evicted ≠ [] := by
      rintro rfl
      simp [counted] at owed
    obtain ⟨next,rest,shape⟩ := exists_cons_of_ne_nil (front lost)
    refine ⟨AttachmentQueue.gapFrame id queue.dropped next,by rw [shape]; rfl,rfl,?_⟩
    refine ⟨⟨told ++ evicted.map some,[],?_,?_,rfl,nofun,few⟩,kept.own,kept.acks⟩
    · simp [order]
    · rw [counted]
      refine .gap shown lost ⟨rest.map some,?_⟩
      simp [order, shape]
  | @inputAck frame acked =>
    obtain ⟨mine,unqueued⟩ := kept.acks frame (.inr acked)
    refine ⟨frame,rfl,mine,?_⟩
    rw [unqueued, if_neg Bool.false_ne_true, append_nil]
    exact { kept with acks := by grind [kept.acks] }
  | @queued frame rest paid waiting =>
    have none_lost : evicted = [] := by
      rw [← length_eq_zero_iff]
      rw [counted, u64Max] at paid
      omega
    have all := kept.own
    rw [waiting] at all order few
    obtain ⟨mine,queued⟩ := all frame mem_cons_self
    refine ⟨frame,rfl,mine,?_⟩
    rw [if_pos queued]
    refine ⟨⟨told ++ [some frame],[],?_,.frame frame shown,?_,nofun,Nat.le_of_succ_le few⟩,?_,
      kept.acks⟩
    · simp [order, none_lost]
    · exact paid
    · exact fun other member => all other (mem_cons_of_mem _ member)

theorem kept_detach (kept : Kept id queue came out) : Kept id .empty (came ++ [none]) out := by
  obtain ⟨told,evicted,order,shown,-⟩ := kept.told
  refine ⟨⟨_,[],?_,.detach (evicted ++ queue.frames) (shown_later shown),rfl,nofun,Nat.zero_le _⟩,
    nofun,nofun⟩
  simp [order, AttachmentQueue.empty]

end Queues

section Steps

/-- What holds of a buffer after the events that led to it. -/
structure Sound (events : List Event) (buffer : OutboundBuffer) : Prop where
  once : buffer.roundRobin.Nodup
  listed : ∀ id, id ∈ buffer.roundRobin ↔ buffer.attachments.lookup id ≠ none
  kept : ∀ id, Kept id (buffer.queueOf id) (received id events) (sent id events)

variable {events : List Event} {event : Event} {buffer after : OutboundBuffer} {id : String}
  {frame : TerminalFrame} {popped : Option TerminalFrame}

theorem empty_sound : Sound [] .empty := by
  refine ⟨nodup_nil,fun _ => ⟨nofun,fun known => absurd rfl known⟩,fun _ => ?_⟩
  exact ⟨⟨[],[],rfl,.nil,rfl,nofun,Nat.zero_le _⟩,nofun,nofun⟩

theorem received_snoc : received id (events ++ [event]) =
    received id events ++ (event.adds id).toList := by
  cases adds : event.adds id <;> simp [received, adds]

theorem sent_snoc : sent id (events ++ [event]) = sent id events ++ (event.sends id).toList := by
  cases sends : event.sends id <;> simp [sent, sends]

attribute [simp] Event.adds Event.sends

theorem queueOf_of_lookup (same : after.attachments.lookup id = buffer.attachments.lookup id) :
    after.queueOf id = buffer.queueOf id := by
  rw [OutboundBuffer.queueOf, same, OutboundBuffer.queueOf]

theorem lookup_enqueue : (buffer.enqueue frame).attachments.lookup id =
    if id = frame.sessionId then some ((buffer.queueOf id).push frame)
    else buffer.attachments.lookup id := by
  unfold OutboundBuffer.enqueue OutboundBuffer.queueOf
  by_cases same : id = frame.sessionId
  · subst same
    split <;> simp_all [AList.lookup_insert]
  · split <;> simp [same, AList.lookup_insert_ne same]

theorem roundRobin_enqueue : (buffer.enqueue frame).roundRobin = buffer.roundRobin ++
    if buffer.attachments.lookup frame.sessionId = none then [frame.sessionId] else [] := by
  unfold OutboundBuffer.enqueue
  split <;> simp_all

section
variable (sound : Sound events buffer)
include sound

theorem enqueue_sound : Sound (events ++ [.enqueue frame]) (buffer.enqueue frame) := by
  refine ⟨?_,fun id => ?_,fun id => ?_⟩
  · rw [roundRobin_enqueue]
    split
    · next new =>
      rw [← concat_eq_append]
      exact Nodup.concat (fun known => (sound.listed _).mp known new) sound.once
    · rw [append_nil]
      exact sound.once
  · rw [roundRobin_enqueue, lookup_enqueue, mem_append, sound.listed]
    by_cases mine : id = frame.sessionId
    · subst mine
      by_cases new : buffer.attachments.lookup frame.sessionId = none <;> simp [new]
    · split <;> simp [mine]
  · rw [received_snoc, sent_snoc]
    by_cases mine : id = frame.sessionId
    · have pushed := kept_push (sound.kept id) mine.symm
      rw [OutboundBuffer.queueOf, lookup_enqueue, if_pos mine]
      cases queued : isQueued frame <;> simpa [mine, queued] using pushed
    · rw [queueOf_of_lookup (lookup_enqueue.trans (if_neg mine))]
      simpa [Ne.symm mine] using sound.kept id

theorem detach_sound : Sound (events ++ [.detach id]) (buffer.detach id) := by
  refine ⟨sound.once.filter _,fun other => ?_,fun other => ?_⟩
  · simp only [OutboundBuffer.detach, mem_filter, sound.listed, bne_iff_ne]
    by_cases mine : other = id
    · subst mine
      simp [AList.lookup_erase]
    · simp [mine, AList.lookup_erase_ne mine]
  · rw [received_snoc, sent_snoc]
    by_cases mine : other = id
    · subst mine
      rw [OutboundBuffer.queueOf, OutboundBuffer.detach, AList.lookup_erase]
      simpa using kept_detach (sound.kept other)
    · rw [queueOf_of_lookup (AList.lookup_erase_ne mine)]
      simpa [Ne.symm mine] using sound.kept other

/-- A pop finds nothing anywhere, or serves the first Session that has something. -/
theorem popFair_serves (pop : buffer.popFair = (popped, after)) :
    (popped = none ∧ (∀ id, buffer.queueOf id = .empty) ∧
      after.roundRobin = buffer.roundRobin ∧
      ∀ id, after.attachments.lookup id = buffer.attachments.lookup id) ∨
    ∃ frame skipped rest left, popped = some frame ∧
      buffer.roundRobin = skipped ++ frame.sessionId :: rest ∧
      (∀ other ∈ skipped, buffer.queueOf other = .empty) ∧
      after.roundRobin = rest ++ skipped ++ [frame.sessionId] ∧
      (∀ other, after.attachments.lookup other =
        if other = frame.sessionId then some left else buffer.attachments.lookup other) ∧
      Kept frame.sessionId left (received frame.sessionId events)
        (sent frame.sessionId events ++ if isQueued frame then [frame] else []) := by
  have pops := popTurns_pops buffer.roundRobin (append_nil _).symm
  rw [← OutboundBuffer.popFair, pop] at pops
  cases pops with
  | @served skipped rest id queue left _ _ order idle found turned turns queues =>
    have mine : buffer.queueOf id = queue := by
      rw [OutboundBuffer.queueOf, found, Option.getD_some]
    obtain ⟨frame,rfl,rfl,kept⟩ := kept_turn (sound.kept id) (mine ▸ turned)
    exact .inr ⟨frame,skipped,rest,left,rfl,order,idle,by simpa using turns,queues,kept⟩
  | none idle queues =>
    obtain ⟨empty,turns⟩ := idle fun id member => (sound.listed id).mp member
    refine .inl ⟨rfl,fun id => ?_,by simpa using turns,queues⟩
    by_cases known : id ∈ buffer.roundRobin
    · exact empty id known
    · rw [sound.listed, not_not] at known
      rw [OutboundBuffer.queueOf, known, Option.getD_none]

theorem popFair_sound (pop : buffer.popFair = (popped, after)) :
    Sound (events ++ [.pop popped]) after := by
  rcases popFair_serves sound pop with
    ⟨rfl,-,turns,queues⟩ | ⟨frame,skipped,rest,left,rfl,order,-,turns,queues,kept⟩
  · refine ⟨turns ▸ sound.once,fun id => ?_,fun id => ?_⟩
    · rw [turns, queues, sound.listed]
    · rw [received_snoc, sent_snoc, queueOf_of_lookup (queues id)]
      simpa using sound.kept id
  · have rotated : after.roundRobin.Perm buffer.roundRobin := by
      rw [turns, order]
      exact (perm_append_singleton _ _).trans (@perm_append_comm _ (_ :: rest) skipped)
    refine ⟨rotated.nodup_iff.mpr sound.once,fun id => ?_,fun id => ?_⟩
    · rw [rotated.mem_iff, sound.listed, queues]
      split
      · next mine =>
        have known := (sound.listed id).mp (by simp [order, mine])
        simpa using known
      · rfl
    · rw [received_snoc, sent_snoc]
      by_cases mine : id = frame.sessionId
      · subst mine
        rw [OutboundBuffer.queueOf, queues, if_pos rfl]
        cases queued : isQueued frame <;> simpa [queued] using kept
      · rw [queueOf_of_lookup ((queues id).trans (if_neg mine))]
        simpa [Ne.symm mine] using sound.kept id

theorem step_sound (step : Step buffer event after) : Sound (events ++ [event]) after := by
  cases step with
  | enqueue frame => exact enqueue_sound sound
  | pop pop => exact popFair_sound sound pop
  | detach id => exact detach_sound sound

end

theorem run_sound (run : Run Step .empty events buffer) : Sound events buffer :=
  run_history_invariant Sound step_sound run [] empty_sound

theorem sessions_counted (sound : Sound events buffer) :
    buffer.roundRobin.length = buffer.attachments.keys.length := by
  refine Perm.length_eq ?_
  refine (perm_ext_iff_of_nodup sound.once buffer.attachments.keys_nodup).mpr fun id => ?_
  rw [sound.listed, ne_eq, AList.lookup_eq_none, not_not, AList.mem_keys]

end Steps

section Results
variable {events past : List Event} {buffer after : OutboundBuffer} {id : String}

/-- In every run a Session is sent its frames in the order they were queued, each once. The
    frames it misses are counted by a gap that stands where they stood, or went with a
    detach; what is left waits in a bounded queue. -/
theorem queued_frames_are_accounted_for (run : Run Step .empty events buffer) (id : String) :
    Accounted id (buffer.queueOf id) (received id events) (sent id events) :=
  ((run_sound run).kept id).told

def outputFrame (id : String) : TerminalFrame := ⟨id, 1, 4, .output, [104, 105]⟩

/-- One frame more than a queue holds, and a frame of another Session. -/
def flood : List TerminalFrame := replicate 257 (outputFrame "flood") ++ [outputFrame "other"]

def flooded : OutboundBuffer := flood.foldl OutboundBuffer.enqueue .empty

def floodGap : TerminalFrame := AttachmentQueue.gapFrame "flood" 1 (outputFrame "flood")

def drained : List Event :=
  [.pop (some floodGap), .pop (some (outputFrame "other")), .pop (some (outputFrame "flood")),
    .detach "flood", .pop none]

theorem enqueued_run (frames : List TerminalFrame) :
    Run Step buffer (frames.map .enqueue) (frames.foldl OutboundBuffer.enqueue buffer) := by
  induction frames generalizing buffer with
  | nil => exact .nil buffer
  | cons frame rest ih => exact .cons (.enqueue frame) ih

theorem flooded_drains : ∃ after, Run Step flooded drained after ∧ after.popFair.1 = none := by
  have pops {buffer popped} (found : buffer.popFair.1 = popped) :
      Step buffer (.pop popped) buffer.popFair.2 := .pop (Prod.ext found rfl)
  exact ⟨_,.cons (pops (by decide +kernel)) (.cons (pops (by decide +kernel))
    (.cons (pops (by decide +kernel)) (.cons (.detach _) (run_single (pops (by decide +kernel)))))),
    by decide +kernel⟩

theorem flooded_session_is_told : ∃ buffer, Run Step .empty (flood.map .enqueue ++ drained) buffer ∧
      sent "flood" (flood.map .enqueue ++ drained) = [floodGap, outputFrame "flood"] ∧
      Accounted "flood" (buffer.queueOf "flood") (received "flood" (flood.map .enqueue ++ drained))
        [floodGap, outputFrame "flood"] := by
  obtain ⟨after,drains,-⟩ := flooded_drains
  have run := run_append (enqueued_run flood) drains
  have told := queued_frames_are_accounted_for run "flood"
  have left : sent "flood" (flood.map .enqueue ++ drained) = [floodGap, outputFrame "flood"] := by
    decide +kernel
  exact ⟨after,run,left,left ▸ told⟩

def Event.isPop : Event → Bool
  | .pop _ => true
  | _ => false

theorem push_ne_empty {queue : AttachmentQueue} {frame : TerminalFrame} (waits : queue ≠ .empty) :
    queue.push frame ≠ .empty := by
  unfold AttachmentQueue.push
  repeat' split
  all_goals simp_all [AttachmentQueue.empty]

/-- A Session that waits keeps its place or moves forward, until it is served or detached. -/
theorem step_advances {ahead behind : List String} {event : Event} (sound : Sound past buffer)
    (place : buffer.roundRobin = ahead ++ id :: behind) (waits : buffer.queueOf id ≠ .empty)
    (step : Step buffer event after) (stays : event ≠ .detach id) :
    (∃ frame, event = .pop (some frame) ∧ frame.sessionId = id) ∨
    ∃ fewer later, after.roundRobin = fewer ++ id :: later ∧ after.queueOf id ≠ .empty ∧
      fewer.length + (if event.isPop then 1 else 0) ≤ ahead.length := by
  cases step with
  | enqueue frame =>
    refine .inr ⟨ahead,_,by rw [roundRobin_enqueue, place, append_assoc]; rfl,?_,?_⟩
    · rw [OutboundBuffer.queueOf, lookup_enqueue]
      split
      · exact push_ne_empty waits
      · exact waits
    · simp [Event.isPop]
  | pop pop =>
    rcases popFair_serves sound pop with
      ⟨-,empty,-⟩ | ⟨frame,skipped,rest,left,rfl,order,idle,turns,queues,-⟩
    · exact absurd (empty id) waits
    by_cases mine : frame.sessionId = id
    · exact .inl ⟨frame,rfl,mine⟩
    -- The rotation passed over idle Sessions only, so the one it served stood before `id`.
    rw [place] at order
    rcases append_eq_append_iff.mp order with ⟨gone,skips,tail⟩ | ⟨gone,front,tail⟩
    · cases gone with
      | nil => exact absurd (cons.inj tail).1.symm mine
      | cons first gone =>
        cases (cons.inj tail).1
        exact absurd (idle id (by simp [skips])) waits
    · cases gone with
      | nil => exact absurd (cons.inj tail).1 mine
      | cons first fewer =>
        obtain ⟨rfl,rfl⟩ := cons.inj tail
        refine .inr ⟨fewer,behind ++ (skipped ++ [frame.sessionId]),by simp [turns],?_,?_⟩
        · rwa [queueOf_of_lookup ((queues id).trans (if_neg (Ne.symm mine)))]
        · simp only [front, Event.isPop, length_append, length_cons, if_true]
          omega
  | detach gone =>
    have apart : id ≠ gone := by
      rintro rfl
      exact stays rfl
    refine .inr ⟨ahead.filter fun other => other != gone,
      behind.filter fun other => other != gone,?_,?_,?_⟩
    · simp [OutboundBuffer.detach, place, apart]
    · rwa [queueOf_of_lookup (AList.lookup_erase_ne apart)]
    · simpa [Event.isPop] using length_filter_le _ ahead

theorem served_of_sound {ahead behind : List String} (sound : Sound past buffer)
    (place : buffer.roundRobin = ahead ++ id :: behind) (waits : buffer.queueOf id ≠ .empty)
    (run : Run Step buffer events after) (stays : .detach id ∉ events)
    (pops : ahead.length < events.countP Event.isPop) :
    ∃ frame, .pop (some frame) ∈ events ∧ frame.sessionId = id := by
  induction run generalizing past ahead behind with
  | nil => cases pops
  | @cons buffer next after event rest first tail ih =>
    rw [mem_cons, not_or] at stays
    rcases step_advances sound place waits first (Ne.symm stays.1) with
      ⟨frame,rfl,mine⟩ | ⟨fewer,later,place,waits,nearer⟩
    · exact ⟨frame,mem_cons_self,mine⟩
    · rw [countP_cons] at pops
      obtain ⟨frame,popped,mine⟩ := ih (step_sound sound first) place waits stays.2 (by omega)
      exact ⟨frame,mem_cons_of_mem _ popped,mine⟩

/-- A Session with something to send is served before more pops have gone by than Sessions
    stood before it, whatever is queued or detached meanwhile. -/
theorem waiting_session_is_served {ahead behind : List String}
    (reached : Run Step .empty past buffer) (place : buffer.roundRobin = ahead ++ id :: behind)
    (waits : buffer.queueOf id ≠ .empty) (run : Run Step buffer events after)
    (stays : .detach id ∉ events) (pops : ahead.length < events.countP Event.isPop) :
    ∃ frame, .pop (some frame) ∈ events ∧ frame.sessionId = id :=
  served_of_sound (run_sound reached) place waits run stays pops

theorem flooded_waits : flooded.queueOf "other" ≠ .empty :=
  fun same => absurd (congrArg (·.frames.length) same) (by decide +kernel)

theorem second_session_is_served :
    ∃ frame, .pop (some frame) ∈ drained ∧ frame.sessionId = "other" := by
  obtain ⟨after,drains,-⟩ := flooded_drains
  have place : flooded.roundRobin = ["flood"] ++ "other" :: [] := by decide +kernel
  exact waiting_session_is_served (enqueued_run flood) place flooded_waits drains (by decide)
    (by decide)

/-- In every run a Session's frames are accounted for and 256 wait at most. A pop that finds
    nothing says that nothing is pending, and a Session with something pending is served
    within as many pops as there are Sessions. -/
theorem outbound_scheduling_is_fair (run : Run Step .empty past buffer) :
    (∀ id, (buffer.queueOf id).frames.length ≤ 256 ∧
      Accounted id (buffer.queueOf id) (received id past) (sent id past)) ∧
    (buffer.popFair.1 = none → ∀ id, buffer.queueOf id = .empty) ∧
    ∀ id events after, buffer.queueOf id ≠ .empty → Run Step buffer events after →
      .detach id ∉ events → buffer.attachments.keys.length ≤ events.countP Event.isPop →
      ∃ frame, .pop (some frame) ∈ events ∧ frame.sessionId = id := by
  have sound := run_sound run
  refine ⟨fun id => ?_,fun nothing => ?_,fun id events after waits later stays pops => ?_⟩
  · have told := (sound.kept id).told
    exact ⟨told.elim fun _ ⟨_,_,_,_,_,few⟩ => few,told⟩
  · rcases popFair_serves sound (rfl : buffer.popFair = _) with
      ⟨-,empty,-⟩ | ⟨frame,_,_,_,served,-⟩
    · exact empty
    · exact absurd (nothing.symm.trans served) nofun
  · have listed : id ∈ buffer.roundRobin := by
      rw [sound.listed]
      intro unknown
      exact waits (by rw [OutboundBuffer.queueOf, unknown, Option.getD_none])
    obtain ⟨ahead,behind,place⟩ := append_of_mem listed
    have count := sessions_counted sound
    rw [place, length_append, length_cons] at count
    exact served_of_sound sound place waits later stays (by omega)

theorem flooded_sessions_are_scheduled :
    ∃ after, Run Step .empty (flood.map .enqueue ++ drained) after ∧
      (flooded.queueOf "flood").frames.length ≤ 256 ∧
      Accounted "flood" (flooded.queueOf "flood") (received "flood" (flood.map .enqueue)) [] ∧
      (∀ id, after.queueOf id = .empty) ∧
      ∃ frame, .pop (some frame) ∈ drained ∧ frame.sessionId = "other" := by
  obtain ⟨after,drains,nothing⟩ := flooded_drains
  obtain ⟨told,-,served⟩ := outbound_scheduling_is_fair (enqueued_run flood)
  have run := run_append (enqueued_run flood) drains
  have left : sent "flood" (flood.map .enqueue) = [] := by decide +kernel
  exact ⟨after,run,(told "flood").1,left ▸ (told "flood").2,
    (outbound_scheduling_is_fair run).2.1 nothing,
    served "other" drained after flooded_waits drains (by decide) (by decide +kernel)⟩

/-- Output of one Session came in `n` times, and nothing else. -/
structure Flooding (n : Nat) (buffer : OutboundBuffer) (queue : AttachmentQueue) : Prop where
  turns : buffer.roundRobin = ["flood"]
  listed : buffer.attachments.lookup "flood" = some queue
  unacked : queue.attachAck = none
  waiting : queue.frames.length = min n 256
  evicted : queue.dropped = min (n - 256) u64Max

theorem enqueue_flooding {queue : AttachmentQueue} (flooding : Flooding n buffer queue) :
    ∃ queue, Flooding (n + 1) (buffer.enqueue (outputFrame "flood")) queue := by
  obtain ⟨turns,listed,unacked,waiting,evicted⟩ := flooding
  have here : buffer.queueOf "flood" = queue := by rw [OutboundBuffer.queueOf, listed]; rfl
  have order : (buffer.enqueue (outputFrame "flood")).roundRobin = ["flood"] := by
    rw [roundRobin_enqueue, turns, if_neg (by simp [outputFrame, listed]), append_nil]
  have pushed := (@lookup_enqueue buffer "flood" (outputFrame "flood")).trans (if_pos rfl)
  rw [here, AttachmentQueue.push, if_neg (by decide), if_neg (by decide)] at pushed
  split at pushed
  · next full =>
    rw [waiting, maxAttachmentFrames] at full
    refine ⟨_,order,pushed,unacked,?_,?_⟩
    · simp only [length_append, length_tail, length_singleton]
      omega
    · rw [evicted, saturatingAdd_counts, Nat.sub_add_comm (by omega)]
  · next room =>
    rw [waiting, maxAttachmentFrames] at room
    refine ⟨_,order,pushed,unacked,?_,?_⟩
    · simp only [length_append, length_singleton]
      omega
    · rw [evicted, (by omega : n - 256 = n + 1 - 256)]

theorem flood_floods (n : Nat) : ∃ queue,
    Flooding (n + 1) ((replicate (n + 1) (outputFrame "flood")).foldl .enqueue .empty) queue := by
  induction n with
  | zero => exact ⟨_,rfl,rfl,rfl,rfl,rfl⟩
  | succ n ih =>
    obtain ⟨queue,flooding⟩ := ih
    rw [replicate_succ', foldl_append]
    exact enqueue_flooding flooding

theorem flood_pops (many : 256 ≤ n) : ∃ buffer gap after,
    Run Step .empty ((replicate (n + 1) (outputFrame "flood")).map .enqueue) buffer ∧
      (buffer.queueOf "flood").frames.length = 256 ∧ buffer.popFair = (some gap, after) ∧
      gap.kind = .gap ∧ gap.payload = toBeBytes (min (n + 1 - 256) u64Max) := by
  obtain ⟨queue,turns,listed,unacked,waiting,evicted⟩ := flood_floods n
  have run := @enqueued_run .empty (replicate (n + 1) (outputFrame "flood"))
  generalize foldl _ _ (replicate (n + 1) (outputFrame "flood")) = buffer at run turns listed
  have owed : 0 < queue.dropped := by
    rw [evicted]
    exact Nat.lt_min.mpr ⟨by omega,by decide⟩
  have full : queue.frames.length = 256 := by omega
  obtain ⟨next,rest,shape⟩ := exists_cons_of_length_pos (full ▸ (by decide : 0 < 256))
  refine ⟨buffer,AttachmentQueue.gapFrame "flood" queue.dropped next,_,run,?_,Prod.ext ?_ rfl,
    rfl,congrArg toBeBytes evicted⟩
  · rw [OutboundBuffer.queueOf, listed, Option.getD_some, full]
  · simp [OutboundBuffer.popFair, turns, OutboundBuffer.popTurns, listed, AttachmentQueue.turn,
      unacked, owed, shape]

/-- One frame more is evicted than the counter can hold, and the gap does not count it. -/
theorem gap_counts_fewer_than_evicted : ∃ buffer gap after,
    Run Step .empty ((replicate (u64Max + 256 + 1) (outputFrame "flood")).map .enqueue) buffer ∧
      (buffer.queueOf "flood").frames.length = 256 ∧ buffer.popFair = (some gap, after) ∧
      gap.kind = .gap ∧ gap.payload = toBeBytes u64Max := by
  have counted : min (u64Max + 256 + 1 - 256) u64Max = u64Max := Nat.min_eq_right (by omega)
  exact counted ▸ flood_pops (Nat.le_add_left 256 u64Max)

end Results

end TermloopScheduling
