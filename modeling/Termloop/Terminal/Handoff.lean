import Termloop.Lib.Runs
import Termloop.Terminal.RecentReplay

/-!
One PTY epoch shared by its reader thread and any number of attachments. Each
action is one critical section under the replay lock, so an interleaving of the
threads is a list of actions. The broadcast channel hands every receiver the
messages sent after it subscribed, in order and without lag.
-/
namespace TermloopHandoff
open TermloopRuns TermloopSaturating TermloopReplay List

/-- A subscription together with what its owner has already taken from it. -/
structure TerminalSubscription where
  (replay live : List TerminalEvent)
  replayMouseModes : Nat
  (replayTaken liveTaken : List TerminalEvent)

structure Epoch (Tracker : Type) where
  recent : RecentReplay Tracker
  readerDone : Bool
  subscribers : List TerminalSubscription

inductive Action where
  | read (bytes : Bytes)
  | endOfFile
  | subscribe (maxReplayBytes maxReplayChunkBytes : Nat)
  | receive (subscriber : Nat)

variable {Tracker : Type}

def send (event : TerminalEvent) (subscribers : List TerminalSubscription) :
    List TerminalSubscription :=
  subscribers.map fun sub => { sub with live := sub.live ++ [event] }

/-- Replay events come first; `none` is a receiver that waits for the channel. -/
def TerminalSubscription.recvDelivery (sub : TerminalSubscription) : Option TerminalSubscription :=
  match sub.replay, sub.live with
  | event :: rest, _ => some { sub with replay := rest, replayTaken := sub.replayTaken ++ [event] }
  | [], event :: rest => some { sub with live := rest, liveTaken := sub.liveTaken ++ [event] }
  | [], [] => none

def Epoch.subscribeWithReplayOptions (mouse : MouseTracker Tracker) (epoch : Epoch Tracker)
    (maxReplayBytes maxReplayChunkBytes : Nat) : TerminalSubscription where
  replay := epoch.recent.attachmentReplay maxReplayBytes maxReplayChunkBytes
  live := []
  replayMouseModes := mouse.snapshot epoch.recent.mouseModes
  replayTaken := []
  liveTaken := []

def step (mouse : MouseTracker Tracker) (epoch : Epoch Tracker) : Action → Option (Epoch Tracker)
  | .read bytes =>
    -- `read` fills a buffer of MAX_IO_CHUNK_BYTES and answers zero only at the end.
    if !epoch.readerDone && !bytes.isEmpty && decide (bytes.length ≤ maxIoChunkBytes) then
      some { epoch with
        recent := epoch.recent.recordOutput mouse bytes
        subscribers := send (.output bytes) epoch.subscribers }
    else none
  | .endOfFile =>
    if epoch.readerDone then none
    else some { recent := epoch.recent.recordEof, readerDone := true,
                subscribers := send .eof epoch.subscribers }
  | .subscribe maxReplayBytes maxReplayChunkBytes =>
    some { epoch with
      subscribers := epoch.subscribers ++
        [epoch.subscribeWithReplayOptions mouse maxReplayBytes maxReplayChunkBytes] }
  | .receive i =>
    match epoch.subscribers[i]? with
    | none => none
    | some sub => (sub.recvDelivery).map fun sub =>
        { epoch with subscribers := epoch.subscribers.set i sub }

def chunks (size : Nat) : Nat → Bytes → List Bytes
  | 0, _ => []
  | _ + 1, [] => []
  | fuel + 1, byte :: rest =>
    (byte :: rest).take size :: chunks size fuel ((byte :: rest).drop size)

def historyReads (history : Bytes) : List Bytes :=
  chunks maxIoChunkBytes history.length history

/-- A restored shell history is recorded before the reader starts. -/
def openEpoch (mouse : MouseTracker Tracker) (recentOutputReplay : Bool) (history : Bytes) :
    Epoch Tracker where
  recent := (historyReads history).foldl (fun replay bytes => replay.recordOutput mouse bytes)
    ⟨recentOutputReplay, 0, 0, [], mouse.initial⟩
  readerDone := false
  subscribers := []

def readOf : Action → Option Bytes
  | .read bytes => some bytes
  | .endOfFile => none
  | .subscribe _ _ => none
  | .receive _ => none

def recordedReads (history : Bytes) (actions : List Action) : List Bytes :=
  historyReads history ++ actions.filterMap readOf

/-- The whole replay half of a subscription, taken or not. -/
def TerminalSubscription.replayHalf (sub : TerminalSubscription) : List TerminalEvent :=
  sub.replayTaken ++ sub.replay

def TerminalSubscription.liveHalf (sub : TerminalSubscription) : List TerminalEvent :=
  sub.liveTaken ++ sub.live

/-- The reads are split at `joined`: the replay covers those from `omitted` to there, the
    live half all later ones, and the only gap leads, announcing `count omitted` reads. -/
def Handoff (count : Nat → Nat) (reads : List Bytes) (sub : TerminalSubscription) : Prop :=
  ∃ omitted joined body, omitted ≤ joined ∧ joined ≤ reads.length ∧
    sub.replayHalf = gapPrefix (count omitted) ++ body ∧ GapFree body ∧ GapFree sub.liveHalf ∧
    outputBytes sub.replayHalf = ((reads.take joined).drop omitted).flatten ∧
    outputBytes sub.liveHalf = (reads.drop joined).flatten ∧
    outputBytes sub.replayHalf ++ outputBytes sub.liveHalf = (reads.drop omitted).flatten

theorem chunks_spec (positive : 0 < size) : ∀ fuel (bytes : Bytes), bytes.length ≤ fuel →
      (chunks size fuel bytes).flatten = bytes ∧
        ∀ chunk ∈ chunks size fuel bytes, chunk.length ≤ size := by
  intro fuel
  induction fuel with
  | zero =>
    intro bytes short
    have empty : bytes = [] := length_eq_zero_iff.mp (by omega)
    subst empty
    exact ⟨rfl,by simp [chunks]⟩
  | succ fuel ih =>
    intro bytes short
    cases bytes with
    | nil => exact ⟨rfl,by simp [chunks]⟩
    | cons byte rest =>
      simp only [length_cons] at short
      obtain ⟨whole,small⟩ := ih ((byte :: rest).drop size) (by simp; omega)
      refine ⟨?_,?_⟩
      · rw [chunks, flatten_cons, whole, take_append_drop]
      · intro chunk member
        rw [chunks] at member
        rcases mem_cons.mp member with rfl | later
        · exact length_take_le size (byte :: rest)
        · exact small chunk later

theorem historyReads_small (past : Bytes) :
    ∀ read ∈ historyReads past, read.length ≤ maxIoChunkBytes :=
  (chunks_spec (by decide) _ past (Nat.le_refl _)).2

theorem holds_fold : ∀ {reads : List Bytes} {dropped : Nat} {replay : RecentReplay Tracker},
      Holds reads false dropped replay → (∀ read ∈ later, read.length ≤ maxIoChunkBytes) →
      ∃ more, Holds (reads ++ later) false more
        (later.foldl (fun replay bytes => replay.recordOutput mouse bytes) replay) := by
  induction later with
  | nil =>
    intro reads dropped replay held _
    exact ⟨dropped,by simpa using held⟩
  | cons read later ih =>
    intro reads dropped replay held small
    obtain ⟨more,next⟩ := recordOutput_holds mouse held read (small read (by simp))
    obtain ⟨most,rest⟩ := ih next (fun r member => small r (by simp [member]))
    exact ⟨most,by simpa using rest⟩

theorem openEpoch_holds (mouse : MouseTracker Tracker) (past : Bytes) :
    ∃ dropped, Holds (historyReads past) false dropped (openEpoch mouse true past).recent :=
      by
  have empty : Holds [] false 0 (⟨true,0,0,[],mouse.initial⟩ : RecentReplay Tracker) :=
    ⟨rfl,Nat.le_refl _,by simp,by simp,by simp [readLengths],by simp⟩
  obtain ⟨dropped,held⟩ := holds_fold empty (historyReads_small past)
  exact ⟨dropped,by simpa [openEpoch] using held⟩

theorem flatten_split (reads : List Bytes) (ordered : omitted ≤ joined) :
    ((reads.take joined).drop omitted).flatten ++ (reads.drop joined).flatten =
      (reads.drop omitted).flatten := by
  rw [← flatten_append, drop_take]
  congr 1
  have rejoin := take_append_drop (joined - omitted) (reads.drop omitted)
  rw [drop_drop, Nat.add_sub_cancel' ordered] at rejoin
  exact rejoin

theorem subscribe_handoff {epoch : Epoch Tracker} (held : Holds reads closed dropped epoch.recent) :
    Handoff (min · u64Max) reads
      (epoch.subscribeWithReplayOptions mouse maxReplayBytes maxReplayChunkBytes) := by
  obtain ⟨omitted,body,within,_,shape,free,bytes⟩ :=
    attachmentReplay_spec held maxReplayBytes maxReplayChunkBytes
  refine ⟨omitted,reads.length,body,within,Nat.le_refl _,?_,free,?_,?_,?_,?_⟩
  · simpa [TerminalSubscription.replayHalf, Epoch.subscribeWithReplayOptions] using shape
  · intro count member
    simp [TerminalSubscription.liveHalf, Epoch.subscribeWithReplayOptions] at member
  · simp [TerminalSubscription.replayHalf, Epoch.subscribeWithReplayOptions, shape, bytes]
  · simp [TerminalSubscription.liveHalf, Epoch.subscribeWithReplayOptions]
  · simp [TerminalSubscription.replayHalf, TerminalSubscription.liveHalf,
      Epoch.subscribeWithReplayOptions, shape, bytes]

theorem send_handoff {count : Nat → Nat} (handoff : Handoff count reads sub)
    (notGap : GapFree [event]) (bytes : outputBytes [event] = later.flatten) :
    Handoff count (reads ++ later) { sub with live := sub.live ++ [event] } := by
  obtain ⟨omitted,joined,body,ordered,within,shape,free,liveFree,old,new,whole⟩ := handoff
  have liveHalf : ({ sub with live := sub.live ++ [event] } : TerminalSubscription).liveHalf =
      sub.liveHalf ++ [event] := by
    simp [TerminalSubscription.liveHalf]
  have covered : (reads ++ later).take joined = reads.take joined :=
    take_append_of_le_length within
  have rest : (reads ++ later).drop joined = reads.drop joined ++ later :=
    drop_append_of_le_length within
  have live : outputBytes (sub.liveHalf ++ [event]) = ((reads ++ later).drop joined).flatten := by
    rw [outputBytes_append, new, bytes, rest, flatten_append]
  refine ⟨omitted,joined,body,ordered,by simp; omega,shape,free,?_,?_,?_,?_⟩
  · rw [liveHalf]
    exact gapFree_append liveFree notGap
  · rw [covered]
    exact old
  · rw [liveHalf]
    exact live
  · rw [liveHalf, live, ← flatten_split (reads ++ later) ordered, covered, ← old]
    rfl

theorem recvDelivery_halves {sub next : TerminalSubscription} (taken : sub.recvDelivery =
    some next) :
    next.replayHalf = sub.replayHalf ∧ next.liveHalf = sub.liveHalf := by
  unfold TerminalSubscription.recvDelivery at taken
  split at taken
  · rename_i replay
    cases taken
    simp [TerminalSubscription.replayHalf, TerminalSubscription.liveHalf, replay]
  · rename_i _ live
    cases taken
    simp [TerminalSubscription.replayHalf, TerminalSubscription.liveHalf, live]
  · cases taken

theorem recvDelivery_handoff {count : Nat → Nat}
    {sub next : TerminalSubscription} (handoff : Handoff count reads sub)
    (taken : sub.recvDelivery = some next) : Handoff count reads next := by
  obtain ⟨replay,live⟩ := recvDelivery_halves taken
  unfold Handoff at *
  rw [replay, live]
  exact handoff

/-- The ring and every subscription's handoff, against the recorded reads. -/
structure Accounted (history : Bytes) (past : List Action) (epoch : Epoch Tracker) : Prop where
  ring : ∃ dropped, Holds (recordedReads history past) epoch.readerDone dropped epoch.recent
  handoff : ∀ sub ∈ epoch.subscribers, Handoff (min · u64Max) (recordedReads history past) sub

theorem recordedReads_snoc :
    recordedReads history (past ++ [a]) = recordedReads history past ++ (readOf a).toList := by
  simp only [recordedReads, filterMap_append, append_assoc]
  cases a <;> simp [readOf]

theorem send_accounted {count : Nat → Nat}
    (handoff : ∀ sub ∈ subscribers, Handoff count reads sub) (notGap : GapFree [event])
    (bytes : outputBytes [event] = later.flatten) :
    ∀ sub ∈ send event subscribers, Handoff count (reads ++ later) sub := by
  intro sub member
  obtain ⟨old,here,rfl⟩ := mem_map.mp member
  exact send_handoff (handoff old here) notGap bytes

theorem step_accounted (mouse : MouseTracker Tracker) (history : Bytes) (past : List Action)
    (s : Epoch Tracker) (a : Action) (t : Epoch Tracker) (inv : Accounted history past s)
    (taken : Takes (step mouse) s a t) : Accounted history (past ++ [a]) t := by
  obtain ⟨dropped,held⟩ := inv.ring
  have handoff := inv.handoff
  unfold Takes at taken
  cases a with
  | read bytes =>
    simp only [step] at taken
    split at taken
    · rename_i guard
      cases taken
      simp only [Bool.and_eq_true, Bool.not_eq_true', decide_eq_true_eq] at guard
      obtain ⟨⟨reading,_⟩,small⟩ := guard
      rw [reading] at held
      refine ⟨?_,?_⟩
      · simpa [recordedReads_snoc, readOf, reading] using recordOutput_holds mouse held bytes small
      · rw [recordedReads_snoc]
        exact send_accounted handoff (gapFree_reads [bytes]) (by simp [readOf])
    · cases taken
  | endOfFile =>
    simp only [step] at taken
    split at taken
    · cases taken
    rename_i reading
    cases taken
    simp only [Bool.not_eq_true] at reading
    rw [reading] at held
    refine ⟨⟨dropped,?_⟩,?_⟩
    · simpa [recordedReads_snoc, readOf] using recordEof_holds held
    · rw [recordedReads_snoc]
      exact send_accounted handoff (by intro count member; simp at member) (by simp [readOf])
  | subscribe maxReplayBytes maxReplayChunkBytes =>
    simp only [step, Option.some.injEq] at taken
    subst taken
    refine ⟨⟨dropped,by simpa [recordedReads_snoc, readOf] using held⟩,?_⟩
    intro sub member
    simp only [recordedReads_snoc, readOf, Option.toList_none, append_nil]
    rcases mem_append.mp member with old | new
    · exact handoff sub old
    · rw [mem_singleton.mp new]
      exact subscribe_handoff held
  | receive i =>
    simp only [step] at taken
    split at taken
    · cases taken
    rename_i sub here
    obtain ⟨next,delivered,rfl⟩ := Option.map_eq_some_iff.mp taken
    refine ⟨⟨dropped,by simpa [recordedReads_snoc, readOf] using held⟩,?_⟩
    intro other member
    simp only [recordedReads_snoc, readOf, Option.toList_none, append_nil]
    rcases mem_or_eq_of_mem_set member with old | rfl
    · exact handoff other old
    · exact recvDelivery_handoff (handoff sub (mem_of_getElem? here)) delivered

theorem run_accounted (mouse : MouseTracker Tracker) (past : Bytes)
    (run : Run (Takes (step mouse)) (openEpoch mouse true past) actions epoch) :
    Accounted past actions epoch := by
  simpa using run_history_invariant (Accounted past) (step_accounted mouse past _ _ _ _) run []
    ⟨by simpa [recordedReads, openEpoch] using openEpoch_holds mouse past,by simp [openEpoch]⟩

/-- Replay and live output are a suffix of the recorded stream, no read is in both, and the
    leading gap counts the missing reads up to its word limit. -/
theorem replay_live_handoff (mouse : MouseTracker Tracker) (history : Bytes)
    {actions : List Action} {epoch : Epoch Tracker}
    (run : Run (Takes (step mouse)) (openEpoch mouse true history) actions epoch) :
    (recordedReads history actions).flatten = history ++ (actions.filterMap readOf).flatten ∧
      ∀ sub ∈ epoch.subscribers, Handoff (min · u64Max) (recordedReads history actions) sub :=
  ⟨by rw [recordedReads, flatten_append, historyReads,
    (chunks_spec (by decide) _ history (Nat.le_refl _)).1],(run_accounted mouse history run).handoff⟩

def stillMouse : MouseTracker Unit := ⟨(), fun _ _ => (), fun _ => 0⟩

theorem replay_live_handoff_between_reads :
    ∃ epoch, execute (step stillMouse) (openEpoch stillMouse true [7])
        [.read [1, 2], .subscribe 1 0, .read [3], .receive 0] = some epoch ∧
      epoch.subscribers.length = 1 ∧
      ∀ sub ∈ epoch.subscribers, Handoff (min · u64Max) [[7], [1, 2], [3]] sub := by
  obtain ⟨epoch,done,joined⟩ : ∃ epoch, execute (step stillMouse) (openEpoch stillMouse true [7])
      [.read [1, 2], .subscribe 1 0, .read [3], .receive 0] = some epoch ∧
    epoch.subscribers.length = 1 := ⟨_,rfl,rfl⟩
  exact ⟨epoch,done,joined,(replay_live_handoff stillMouse [7] (run_of_execute done)).2⟩

def byteReads (n : Nat) : List Action := List.replicate n (.read [0])

theorem recordedReads_byteReads : recordedReads [] (byteReads n) = List.replicate n [0] := by
  have reads : (byteReads n).filterMap readOf = List.replicate n [0] :=
    filterMap_replicate_of_some rfl
  simp [recordedReads, historyReads, chunks, reads]

theorem byteReads_run :
    ∃ epoch, Run (Takes (step stillMouse)) (openEpoch stillMouse true []) (byteReads n) epoch ∧
      epoch.readerDone = false ∧ epoch.subscribers = [] := by
  induction n with
  | zero => exact ⟨_,Run.nil _,rfl,rfl⟩
  | succ n ih =>
    obtain ⟨epoch,run,reading,alone⟩ := ih
    refine ⟨{ epoch with recent := epoch.recent.recordOutput stillMouse [0] },?_,reading,alone⟩
    rw [byteReads, replicate_succ']
    refine run_snoc run ?_
    simp [Takes, step, reading, alone, send, maxIoChunkBytes]

theorem emptyReplay_announces {epoch : Epoch Unit}
    (held : Holds (List.replicate n [0]) false dropped epoch.recent) :
    ∃ body, (epoch.recent.attachmentReplay 0 0) = gapPrefix (min n u64Max) ++ body ∧
      outputBytes body = [] := by
  obtain ⟨omitted,body,within,budget,shape,_,bytes⟩ := attachmentReplay_spec held 0 0
  have all : omitted = n := by
    simp only [drop_replicate, readLengths, map_replicate, sum_replicate_nat,
      length_replicate] at budget within
    simp at budget
    omega
  subst all
  exact ⟨body,shape,by simpa using bytes⟩

theorem exactCount_fails (large : u64Max < n) {epoch : Epoch Unit}
    (held : Holds (List.replicate n [0]) false dropped epoch.recent) :
    ¬ Handoff id (List.replicate n [0]) (epoch.subscribeWithReplayOptions stillMouse 0 0) := by
  rintro ⟨omitted,joined,body,ordered,within,shape,_,_,_,_,whole⟩
  obtain ⟨announced,replay,silent⟩ := emptyReplay_announces held
  have halves : (epoch.subscribeWithReplayOptions stillMouse 0 0).replayHalf =
      gapPrefix (min n u64Max) ++ announced := by
    simp [TerminalSubscription.replayHalf, Epoch.subscribeWithReplayOptions, replay]
  have quiet : (epoch.subscribeWithReplayOptions stillMouse 0 0).liveHalf = [] := rfl
  rw [halves, quiet, outputBytes_append, silent, drop_replicate] at whole
  have all : n - omitted = 0 := by
    have := congrArg List.length whole
    simpa using this.symm
  rw [length_replicate] at within
  have same : omitted = n := by omega
  subst same
  rw [halves, Nat.min_eq_right (Nat.le_of_lt large)] at shape
  simp [gapPrefix, u64Max] at shape large
  split at shape <;> simp at shape <;> omega

/-- After `2^64` one-byte reads an attachment without a budget is told of one read fewer. -/
theorem gap_count_saturates : ∃ epoch, Run (Takes (step stillMouse)) (openEpoch stillMouse true [])
        (byteReads (u64Max + 1) ++ [.subscribe 0 0]) epoch ∧
      ∃ sub ∈ epoch.subscribers,
        ¬ Handoff id (recordedReads [] (byteReads (u64Max + 1) ++ [.subscribe 0 0])) sub := by
  obtain ⟨epoch,run,reading,alone⟩ := byteReads_run
  obtain ⟨dropped,held⟩ := (run_accounted stillMouse [] run).ring
  rw [recordedReads_byteReads, reading] at held
  refine ⟨_,run_snoc run rfl,epoch.subscribeWithReplayOptions stillMouse 0 0,by simp,?_⟩
  rw [recordedReads_snoc, recordedReads_byteReads]
  simpa [readOf] using exactCount_fails (Nat.lt_succ_self u64Max) held

end TermloopHandoff
