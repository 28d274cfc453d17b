import Mathlib.Data.List.Infix
import Termloop.Server.OutboundBuffer
import Termloop.Terminal.Handoff
import Termloop.Terminal.ReplayWire

/-!
The replay as the desktop stages it. The acknowledgement of an Attach says how many
frames and bytes follow; the buffer collects them and hands them over in one piece when
the last one is there. The frames come in the order in which the pump takes the events
out of the subscription.
-/
namespace TermloopReplayBuffer
open TermloopReplay TermloopReplayWire TermloopHandoff TermloopOutbound TermloopRuns List

structure Completion where
  bytes : Bytes
  complete : Bool
  mouseModes : Option Nat

structure TerminalReplayBuffer where
  chunks : List Bytes
  received : Nat
  remaining : Option Int
  total : Nat
  (mouseModes timer : Option Nat)
  active : Bool
  completions : List Completion
  progress : List (Option Nat)

namespace TerminalReplayBuffer

def cancel (buffer : TerminalReplayBuffer) : TerminalReplayBuffer :=
  { buffer with
    timer := none, active := false, chunks := [], received := 0, remaining := none
    mouseModes := none }

def flush (buffer : TerminalReplayBuffer) : TerminalReplayBuffer :=
  if !buffer.active then buffer
  else
    let complete := decide (buffer.remaining = none) ||
      (decide (buffer.remaining = some 0) && decide (buffer.received = buffer.total))
    { buffer.cancel with
      completions := buffer.completions ++ [⟨buffer.chunks.flatten, complete, buffer.mouseModes⟩] }

def percent (buffer : TerminalReplayBuffer) : Option Nat :=
  if buffer.total = 0 then none else some (min 100 (buffer.received * 100 / buffer.total))

def begin (buffer : TerminalReplayBuffer) (payload : Bytes) : TerminalReplayBuffer :=
  let metadata : Option ReplayAck := decodeReplayAck payload
  let buffer : TerminalReplayBuffer :=
    { buffer.cancel with
      active := true
      remaining := metadata.map fun ack => (ack.frames : Int)
      total := (metadata.map ReplayAck.bytes).getD 0
      mouseModes := metadata.bind ReplayAck.mouseModes }
  let buffer := { buffer with
    progress := buffer.progress ++ [if buffer.total = 0 then none else some 0] }
  if buffer.remaining = some 0 then buffer.flush
  else { buffer with timer := some (if metadata.isSome then 5000 else 1000) }

def counted (buffer : TerminalReplayBuffer) : TerminalReplayBuffer :=
  let buffer := { buffer with remaining := buffer.remaining.map (· - 1) }
  let buffer := { buffer with progress := buffer.progress ++ [buffer.percent] }
  if buffer.remaining = some 0 then buffer.flush else buffer

def accept (buffer : TerminalReplayBuffer) : Option Bytes → Bool × TerminalReplayBuffer
  | some bytes =>
    if !buffer.active then (false, buffer)
    else if buffer.received + bytes.length > 1024 * 1024 then (false, buffer.flush)
    else
      let buffer := { buffer with
        chunks := buffer.chunks ++ [bytes], received := buffer.received + bytes.length }
      (true, buffer.counted)
  | none => if !buffer.active then (false, buffer) else (true, buffer.counted)

end TerminalReplayBuffer

def onFrame (buffer : TerminalReplayBuffer) (frame : TerminalFrame) : TerminalReplayBuffer :=
  match frame.kind with
  | .ack => buffer.begin frame.payload
  | .replayOutput =>
    match buffer.accept (some frame.payload) with
    | (true, buffer) => buffer
    | (false, buffer) => buffer.flush
  | .output => buffer.flush
  | .gap => (buffer.accept none).2
  | .eof => (buffer.accept none).2.flush
  | _ => buffer

def replayFrame (id : String) (epoch sequence : Nat) : TerminalEvent → TerminalFrame
  | .output bytes => ⟨id, epoch, sequence, .replayOutput, bytes⟩
  | .gap count => ⟨id, epoch, sequence, .gap, toBeBytes count⟩
  | .eof => ⟨id, epoch, sequence, .eof, []⟩

def replayFrames (id : String) (epoch : Nat) : Nat → List TerminalEvent → List TerminalFrame
  | _, [] => []
  | sequence, event :: rest =>
    replayFrame id epoch sequence event :: replayFrames id epoch (sequence + 1) rest

def attachAck (attach : TerminalFrame) (request : ReplayRequest) (sub : TerminalSubscription) :
    TerminalFrame :=
  { attach with
    kind := .ack
    payload := replayAckPayload sub.replay.length (outputBytes sub.replay).length
      (if request.mouseModes then some sub.replayMouseModes else none) }

section Staging

/-- The buffer has staged some output and waits for the events that are left. -/
structure Awaits (staged : Bytes) (modes : Option Nat) (earlier : List Completion)
    (events : List TerminalEvent) (buffer : TerminalReplayBuffer) : Prop where
  active : buffer.active = true
  remaining : buffer.remaining = some (events.length : Int)
  chunks : buffer.chunks.flatten = staged
  received : buffer.received = staged.length
  total : buffer.total = (staged ++ outputBytes events).length
  bounded : buffer.total ≤ 1024 * 1024
  mouseModes : buffer.mouseModes = modes
  completions : buffer.completions = earlier

variable {staged : Bytes} {modes : Option Nat} {earlier : List Completion}
  {event : TerminalEvent} {rest events : List TerminalEvent} {buffer : TerminalReplayBuffer}

theorem flush_awaits (awaits : Awaits staged modes earlier [] buffer) :
    buffer.flush.active = false ∧ buffer.flush.completions = earlier ++ [⟨staged, true, modes⟩] :=
      by
  have whole : buffer.received = buffer.total := by
    rw [awaits.received, awaits.total, outputBytes_nil, append_nil]
  rw [TerminalReplayBuffer.flush, awaits.active]
  refine ⟨rfl,?_⟩
  simp only [Bool.not_true, Bool.false_eq_true, if_false]
  rw [awaits.completions, awaits.chunks, awaits.remaining, awaits.mouseModes, whole]
  simp

/-- Where the buffer is once a frame has been counted: at the end, or waiting for the rest. -/
def Proceeds (staged : Bytes) (modes : Option Nat) (earlier : List Completion)
    (rest : List TerminalEvent) (buffer : TerminalReplayBuffer) : Prop :=
  if rest = [] then
    buffer.active = false ∧ buffer.completions = earlier ++ [⟨staged, true, modes⟩]
  else Awaits staged modes earlier rest buffer

theorem counted_proceeds (active : buffer.active)
    (remaining : buffer.remaining = some ((rest.length + 1 : Nat) : Int))
    (chunks : buffer.chunks.flatten = staged) (received : buffer.received = staged.length)
    (total : buffer.total = (staged ++ outputBytes rest).length)
    (bounded : buffer.total ≤ 1024 * 1024) (mouseModes : buffer.mouseModes = modes)
    (completions : buffer.completions = earlier) :
    Proceeds staged modes earlier rest buffer.counted := by
  let next := { buffer with remaining := some (rest.length : Int) }
  let shown := { next with progress := next.progress ++ [next.percent] }
  have awaits : Awaits staged modes earlier rest shown :=
    ⟨active,rfl,chunks,received,total,bounded,mouseModes,completions⟩
  have less : buffer.remaining.map (· - 1) = some (rest.length : Int) := by
    rw [remaining, Option.map_some]
    congr 1
    omega
  have shape : buffer.counted = if shown.remaining = some 0 then shown.flush else shown := by
    dsimp only [TerminalReplayBuffer.counted]
    rw [less]
  rw [shape, Proceeds, awaits.remaining]
  cases rest with
  | nil =>
    rw [if_pos rfl, length_nil, Int.natCast_zero, if_pos rfl]
    exact flush_awaits awaits
  | cons first rest =>
    rw [if_neg (by simp), if_neg (by simp; omega)]
    exact awaits

theorem accept_proceeds (placed : Option Bytes)
    (awaits : Awaits staged modes earlier (event :: rest) buffer)
    (same : outputBytes [event] = placed.getD []) :
    (buffer.accept placed).1 ∧
      Proceeds (staged ++ outputBytes [event]) modes earlier rest (buffer.accept placed).2 := by
  have active : ¬ (!buffer.active) := by
    rw [awaits.active]
    decide
  have total : buffer.total = (staged ++ outputBytes [event] ++ outputBytes rest).length := by
    rw [awaits.total, append_assoc, ← outputBytes_append, singleton_append]
  have bounded := awaits.bounded
  cases placed with
  | none =>
    rw [TerminalReplayBuffer.accept, if_neg active]
    refine ⟨rfl,counted_proceeds awaits.active awaits.remaining ?_ ?_ total bounded
      awaits.mouseModes awaits.completions⟩
    · rw [awaits.chunks, same, Option.getD_none, append_nil]
    · rw [awaits.received, same, Option.getD_none, append_nil]
  | some bytes =>
    rw [Option.getD_some] at same
    have fits : ¬ buffer.received + bytes.length > 1024 * 1024 := by
      rw [total, same, length_append, length_append] at bounded
      rw [awaits.received]
      omega
    rw [TerminalReplayBuffer.accept, if_neg active, if_neg fits]
    refine ⟨rfl,counted_proceeds awaits.active awaits.remaining ?_ ?_ total bounded
      awaits.mouseModes awaits.completions⟩
    · rw [flatten_append, awaits.chunks, same, flatten_singleton]
    · rw [awaits.received, same, length_append]

theorem onFrame_proceeds (id : String) (epoch seq : Nat)
    (awaits : Awaits staged modes earlier (event :: rest) buffer)
    (last : event = .eof → rest = []) :
    Proceeds (staged ++ outputBytes [event]) modes earlier rest
      (onFrame buffer (replayFrame id epoch seq event)) := by
  cases event with
  | output bytes =>
    obtain ⟨taken,proceeds⟩ := accept_proceeds (some bytes) awaits (append_nil bytes)
    dsimp only [onFrame, replayFrame]
    split
    · next next accepted => rwa [accepted] at proceeds
    next next refused =>
    rw [refused] at taken
    cases taken
  | gap count => exact (accept_proceeds none awaits rfl).2
  | eof =>
    -- The pool flushes at the end of the output, and the buffer is already done.
    have proceeds := (accept_proceeds none awaits rfl).2
    rw [Proceeds, if_pos (last rfl)] at proceeds ⊢
    dsimp only [onFrame, replayFrame]
    rwa [TerminalReplayBuffer.flush, proceeds.1]

theorem begin_proceeds
    (read : decodeReplayAck payload = some ⟨events.length, (outputBytes events).length, modes⟩)
    (bounded : (outputBytes events).length ≤ 1024 * 1024) (buffer : TerminalReplayBuffer) :
    Proceeds [] modes buffer.completions events (buffer.begin payload) := by
  let next : TerminalReplayBuffer :=
    { buffer.cancel with
      active := true, remaining := some (events.length : Int)
      total := (outputBytes events).length, mouseModes := modes
      progress := buffer.progress ++ [if (outputBytes events).length = 0 then none else some 0] }
  have awaits : Awaits [] modes buffer.completions events next :=
    ⟨rfl,rfl,rfl,rfl,rfl,bounded,rfl,rfl⟩
  have shape : buffer.begin payload =
      if next.remaining = some 0 then next.flush else { next with timer := some 5000 } := by
    rw [TerminalReplayBuffer.begin, read]
    rfl
  rw [shape, Proceeds, awaits.remaining]
  cases events with
  | nil =>
    rw [if_pos rfl, length_nil, Int.natCast_zero, if_pos rfl]
    exact flush_awaits awaits
  | cons first rest =>
    rw [if_neg (by simp), if_neg (by simp; omega)]
    exact ⟨rfl,rfl,rfl,rfl,rfl,bounded,rfl,rfl⟩

theorem frames_complete (id : String) (epoch : Nat) :
    ∀ (events : List TerminalEvent) (seq : Nat) (staged : Bytes)
      (buffer : TerminalReplayBuffer), Proceeds staged modes earlier events buffer →
      (∀ event ∈ events.dropLast, event ≠ .eof) → ∀ count, count ≤ events.length →
        (((replayFrames id epoch seq events).take count).foldl onFrame buffer).completions =
          earlier ++ if count = events.length then [⟨staged ++ outputBytes events, true, modes⟩]
            else [] := by
  intro events
  induction events with
  | nil =>
    intro seq staged buffer done _ count all
    rw [Nat.le_zero.mp all]
    rw [Proceeds, if_pos rfl] at done
    rw [outputBytes_nil, append_nil]
    exact done.2
  | cons event rest ih =>
    intro seq staged buffer proceeds endLast count within
    rw [Proceeds, if_neg (by simp)] at proceeds
    have last : event = .eof → rest = [] := by
      intro ends
      cases rest with
      | nil => rfl
      | cons second rest => exact absurd ends (endLast event (by simp))
    cases count with
    | zero =>
      rw [if_neg (by simp), append_nil]
      exact proceeds.completions
    | succ count =>
      have later : ∀ event ∈ rest.dropLast, event ≠ .eof := by
        intro later here
        cases rest with
        | nil => cases here
        | cons second rest => exact endLast later (mem_cons_of_mem _ here)
      have tail := ih (seq + 1) _ _ (onFrame_proceeds id epoch seq proceeds last) later
        count (Nat.le_of_succ_le_succ within)
      rw [replayFrames, take_succ_cons, foldl_cons, tail, length_cons,
        append_assoc, ← outputBytes_append, singleton_append]
      simp only [Nat.add_right_cancel_iff]

end Staging

section Negotiation

variable {Parser : Type} {vte : VteParser Parser} {history : Bytes}

theorem recordOutput_kept (mouse : MouseTracker Tracker)
    (replay : RecentReplay Tracker) (bytes : Bytes) :
    (replay.recordOutput mouse bytes).enabled = replay.enabled ∧
      (replay.recordOutput mouse bytes).mouseModes = mouse.record replay.mouseModes bytes := by
  unfold RecentReplay.recordOutput
  dsimp only
  split <;> exact ⟨rfl,rfl⟩

theorem recordEof_kept (replay : RecentReplay Tracker) : replay.recordEof.enabled = replay.enabled ∧
      replay.recordEof.mouseModes = replay.mouseModes := by
  unfold RecentReplay.recordEof
  split <;> exact ⟨rfl,rfl⟩

structure Tracked (on : Bool) (replay : RecentReplay (Parser × Nat)) : Prop where
  enabled : replay.enabled = on
  modes : replay.mouseModes.2 ∈ mouseModes

theorem recordOutput_tracked (tracked : Tracked on replay) (bytes : Bytes) :
    Tracked on (replay.recordOutput (mouseModeTracker vte) bytes) := by
  obtain ⟨enabled,recorded⟩ := recordOutput_kept (mouseModeTracker vte) replay bytes
  exact ⟨enabled.trans tracked.enabled,recorded ▸ record_modes vte tracked.modes bytes⟩

theorem openEpoch_tracked : Tracked on (openEpoch (mouseModeTracker vte) on history).recent :=
  foldlRecOn _ _ ⟨rfl,mem_cons_self⟩ fun _ tracked read _ =>
    recordOutput_tracked tracked read

theorem step_tracked {pre after : Epoch (Parser × Nat)}
    (taken : Takes (step (mouseModeTracker vte)) pre action after) (tracked : Tracked on pre.recent)
    (small : ∀ read ∈ past.filterMap readOf, read.length ≤ maxIoChunkBytes) :
    Tracked on after.recent ∧
      ∀ read ∈ (past ++ [action]).filterMap readOf, read.length ≤ maxIoChunkBytes := by
  have silent : readOf action = none →
      ∀ read ∈ (past ++ [action]).filterMap readOf, read.length ≤ maxIoChunkBytes := by
    intro nothing
    rwa [filterMap_append, filterMap_cons_none nothing, filterMap_nil, append_nil]
  unfold Takes at taken
  cases action with
  | read bytes =>
    rw [step] at taken
    split at taken
    · next guard =>
      cases taken
      refine ⟨recordOutput_tracked tracked bytes,fun read here => ?_⟩
      rw [filterMap_append] at here
      rcases mem_append.mp here with earlier | newest
      · exact small read earlier
      · simp only [Bool.and_eq_true, decide_eq_true_eq] at guard
        rw [mem_singleton.mp newest]
        exact guard.2
    · cases taken
  | endOfFile =>
    rw [step] at taken
    split at taken
    · cases taken
    cases taken
    obtain ⟨enabled,kept⟩ := recordEof_kept pre.recent
    exact ⟨⟨enabled.trans tracked.enabled,kept ▸ tracked.modes⟩,silent rfl⟩
  | subscribe maxReplayBytes maxReplayChunkBytes =>
    cases taken
    exact ⟨tracked,silent rfl⟩
  | receive index =>
    rw [step] at taken
    split at taken
    · cases taken
    obtain ⟨sub,-,made⟩ := Option.map_eq_some_iff.mp taken
    cases made
    exact ⟨tracked,silent rfl⟩

theorem run_tracked {actions : List Action}
    (run : Run (Takes (step (mouseModeTracker vte))) (openEpoch (mouseModeTracker vte) on history)
      actions epoch) :
    Tracked on epoch.recent ∧
      ∀ read ∈ recordedReads history actions, read.length ≤ maxIoChunkBytes := by
  obtain ⟨tracked,small⟩ := run_history_invariant (fun past epoch => Tracked on epoch.recent ∧
      ∀ read ∈ past.filterMap readOf, read.length ≤ maxIoChunkBytes)
    (fun kept taken => step_tracked taken kept.1 kept.2) run []
    ⟨openEpoch_tracked,nofun⟩
  refine ⟨tracked,fun read here => ?_⟩
  rcases mem_append.mp here with restored | live
  · exact historyReads_small history read restored
  · exact small read live

theorem replay_within_bounds
    (run : Run (Takes (step (mouseModeTracker vte))) (openEpoch (mouseModeTracker vte) on history)
      actions epoch) :
    (epoch.recent.attachmentReplay maxRecentReplayBytes (64 * 1024)).length ≤ 256 ∧
      (outputBytes (epoch.recent.attachmentReplay maxRecentReplayBytes (64 * 1024))).length ≤
        maxRecentReplayBytes ∧
      ∀ event ∈ (epoch.recent.attachmentReplay maxRecentReplayBytes (64 * 1024)).dropLast,
        event ≠ .eof := by
  obtain ⟨tracked,small⟩ := run_tracked run
  cases on with
  | false =>
    have nothing : epoch.recent.attachmentReplay maxRecentReplayBytes (64 * 1024) = [] := by
      rw [RecentReplay.attachmentReplay, if_pos (Nat.le_refl _), if_neg (by decide),
        RecentReplay.snapshotWithOptions, tracked.enabled]
      rfl
    rw [nothing]
    exact ⟨by decide,by decide,by simp⟩
  | true =>
    obtain ⟨dropped,held⟩ := (run_accounted (mouseModeTracker vte) history run).ring
    obtain ⟨omitted,chunks,shape,filled,bounded⟩ := attachmentReplay_chunks held small
    rw [shape]
    refine ⟨replay_frames_few filled bounded,?_,fun event here => ?_⟩
    · have bytes : outputBytes (if epoch.readerDone then [TerminalEvent.eof] else []) = [] := by
        cases epoch.readerDone <;> rfl
      rw [outputBytes_append, outputBytes_gapPrefix, nil_append, outputBytes_append, bytes,
        append_nil, outputBytes_reads, length_flatten]
      exact bounded
    · have front : event ∈ gapPrefix omitted ++ chunks.map .output := by
        cases ended : epoch.readerDone with
        | false =>
          rw [ended] at here
          exact mem_of_mem_dropLast (by simpa using here)
        | true =>
          rw [ended, if_pos rfl, ← append_assoc, dropLast_concat] at here
          exact here
      rcases mem_append.mp front with gap | output
      · unfold gapPrefix at gap
        split at gap
        · rw [mem_singleton.mp gap]
          simp
        · cases gap
      · obtain ⟨bytes,-,made⟩ := mem_map.mp output
        rw [← made]
        simp

/-- The answer to the desktop's request is read, and the replay completes with its last
    frame and all its output. -/
theorem replay_completes_with_last_frame {Parser : Type} (vte : VteParser Parser)
    (recentOutputReplay : Bool) (history : Bytes) {actions : List Action}
    {epoch : Epoch (Parser × Nat)}
    (run : Run (Takes (step (mouseModeTracker vte)))
      (openEpoch (mouseModeTracker vte) recentOutputReplay history) actions epoch)
    (attach : TerminalFrame) (asks : attach.payload = replayRequestPayload)
    (buffer : TerminalReplayBuffer) :
    ∃ request, requestedReplayOptions attach.payload = some request ∧
      let sub := epoch.subscribeWithReplayOptions (mouseModeTracker vte) request.maxBytes
        request.maxChunkBytes
      let acked := attachAck attach request sub
      decodeReplayAck acked.payload = some
          ⟨sub.replay.length, (outputBytes sub.replay).length, some sub.replayMouseModes⟩ ∧
        ∀ count, count ≤ sub.replay.length →
          (((replayFrames attach.sessionId attach.epoch 1 sub.replay).take count).foldl onFrame
            (onFrame buffer acked)).completions =
          buffer.completions ++ if count = sub.replay.length then
            [⟨outputBytes sub.replay, true, some sub.replayMouseModes⟩] else [] := by
  obtain ⟨tracked,-⟩ := run_tracked run
  obtain ⟨few,bounded,endLast⟩ := replay_within_bounds run
  refine ⟨⟨maxRecentReplayBytes,64 * 1024,true⟩,?_,?_⟩
  · rw [asks, requestedReplayOptions_desktop]
  · intro sub acked
    have read : decodeReplayAck acked.payload = some
        ⟨sub.replay.length,(outputBytes sub.replay).length,some sub.replayMouseModes⟩ :=
      decodeReplayAck_replayAckPayload few bounded tracked.modes
    refine ⟨read,fun count within => ?_⟩
    have started := begin_proceeds read bounded buffer
    exact frames_complete attach.sessionId attach.epoch sub.replay 1 [] _ started endLast count
      within

theorem two_reads_complete_in_one_frame :
    ∃ (vte : VteParser Unit) (epoch : Epoch (Unit × Nat)) (acked : TerminalFrame)
      (frame : TerminalFrame) (buffer : TerminalReplayBuffer),
      Run (Takes (step (mouseModeTracker vte))) (openEpoch (mouseModeTracker vte) true [])
        [.read [65], .read [66]] epoch ∧
      ([acked, frame].foldl onFrame buffer).completions = [⟨[65, 66], true, some 0⟩] := by
  let vte : VteParser Unit := ⟨(),fun _ _ => ((), [])⟩
  let attach : TerminalFrame := ⟨"s",1,0,.attach,replayRequestPayload⟩
  let buffer : TerminalReplayBuffer := ⟨[],0,none,0,none,none,false,[],[]⟩
  have run : Run (Takes (step (mouseModeTracker vte))) (openEpoch (mouseModeTracker vte) true [])
      [.read [65], .read [66]] _ := run_of_execute rfl
  obtain ⟨request,read,-,completes⟩ :=
    replay_completes_with_last_frame vte true [] run attach rfl buffer
  have known : request = ⟨maxRecentReplayBytes,64 * 1024,true⟩ :=
    Option.some.inj (read.symm.trans requestedReplayOptions_desktop)
  subst known
  exact ⟨vte,_,_,_,buffer,run,completes 1 (by decide +kernel)⟩

end Negotiation

end TermloopReplayBuffer
