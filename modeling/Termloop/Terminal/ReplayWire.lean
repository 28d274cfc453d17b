import Termloop.Terminal.RecentReplay

/-!
What daemon and desktop say to each other about a replay. The desktop asks for a number
of bytes in chunks of a size, the daemon answers with the frames and bytes that follow
and the mouse protocol of the program, and the desktop reads the answer only within
bounds of its own. The number of frames stays within them because coalescing leaves no
two small chunks beside each other. The escape parser is a third-party one and stays a
parameter; what is done with the sequences it finds is not.
-/
namespace TermloopReplayWire
open TermloopReplay TermloopSaturating List

def toBeBytes32 (value : Nat) : Bytes :=
  [UInt8.ofNat (value / 2 ^ 24), UInt8.ofNat (value / 2 ^ 16), UInt8.ofNat (value / 2 ^ 8),
    UInt8.ofNat value]

def getUint32 (payload : Bytes) (offset : Nat) : Nat :=
  match payload.drop offset with
  | a :: b :: c :: d :: _ => a.toNat * 2 ^ 24 + b.toNat * 2 ^ 16 + c.toNat * 2 ^ 8 + d.toNat
  | _ => 0

theorem getUint32_toBeBytes32 (word : value < 2 ^ 32) (skips : pre.length = offset) :
    getUint32 (pre ++ (toBeBytes32 value ++ rest)) offset = value := by
  rw [getUint32, drop_left' skips]
  simp only [toBeBytes32, cons_append, UInt8.toNat_ofNat']
  omega

/-- A control sequence or an escape as the parser hands it over. -/
inductive VteAction where
  | csiDispatch (params : List (List Nat)) (intermediates : Bytes) (ignore : Bool) (action : Char)
  | escDispatch (intermediates : Bytes) (ignore : Bool) (byte : UInt8)

structure VteParser (Parser : Type) where
  initial : Parser
  advance : Parser → Bytes → Parser × List VteAction

def trackingOf : Nat → Option Nat
  | 9 => some 1
  | 1000 => some 2
  | 1002 => some 3
  | 1003 => some 4
  | _ => none

def setMode (action : Char) (modes : Nat) : List Nat → Nat
  | [mode] =>
    match trackingOf mode with
    | some tracking => (modes &&& 0x100) ||| if action = 'h' then tracking else 0
    | none =>
      if mode = 1006 then (modes &&& 0xff) ||| if action = 'h' then 0x100 else 0 else modes
  | _ => modes

def dispatch (modes : Nat) : VteAction → Nat
  | .csiDispatch params intermediates ignore action =>
    if ignore || intermediates != [63] || !(action = 'h' || action = 'l') then modes
    else params.foldl (setMode action) modes
  | .escDispatch intermediates ignore byte =>
    if !ignore && intermediates.isEmpty && byte = 99 then 0 else modes

/-- The tracker beside the ring: the parser and the modes it has set. -/
def mouseModeTracker {Parser : Type} (vte : VteParser Parser) : MouseTracker (Parser × Nat) where
  initial := (vte.initial, 0)
  record := fun tracker bytes =>
    let (parser, actions) := vte.advance tracker.1 bytes
    (parser, actions.foldl dispatch tracker.2)
  snapshot := Prod.snd

/-- Low byte: none, X10, normal, button, any. Bit 8: SGR encoding. -/
def mouseModes : List Nat := [0, 1, 2, 3, 4, 0x100, 0x101, 0x102, 0x103, 0x104]

theorem tracking_modes : ∀ modes ∈ mouseModes, ∀ tracking ∈ [0, 1, 2, 3, 4],
    (modes &&& 0x100) ||| tracking ∈ mouseModes := by decide

theorem encoding_modes : ∀ modes ∈ mouseModes, ∀ encoding ∈ [0, 0x100],
    (modes &&& 0xff) ||| encoding ∈ mouseModes := by decide

theorem trackingOf_mem (known : trackingOf mode = some tracking) : tracking ∈ [0, 1, 2, 3, 4] := by
  unfold trackingOf at known
  split at known <;> first | (cases known; decide) | cases known

theorem setMode_modes (inside : modes ∈ mouseModes) : setMode action modes param ∈ mouseModes := by
  unfold setMode
  split
  · split
    · next tracking known =>
      refine tracking_modes modes inside _ ?_
      split
      · exact trackingOf_mem known
      · decide
    · split
      · refine encoding_modes modes inside _ ?_
        split <;> decide
      · exact inside
  · exact inside

theorem dispatch_modes (inside : modes ∈ mouseModes) : dispatch modes action ∈ mouseModes := by
  cases action with
  | csiDispatch params intermediates ignore action =>
    rw [dispatch]
    split
    · exact inside
    exact foldlRecOn params (setMode action) inside
      fun modes inside param _ => setMode_modes inside
  | escDispatch intermediates ignore byte =>
    rw [dispatch]
    split
    · decide
    · exact inside

theorem record_modes (vte : VteParser Parser) (inside : tracker.2 ∈ mouseModes) (bytes : Bytes) :
    ((mouseModeTracker vte).record tracker bytes).2 ∈ mouseModes :=
  foldlRecOn _ dispatch inside fun _ inside _ _ => dispatch_modes inside

def replayRequestBytes : Nat := 12
def maxReplayWireChunkBytes : Nat := 256 * 1024
def replayMouseModesFlag : Nat := 0x80000000
def replayRequestMagic : Bytes := [84, 76, 82, 81]
def replayAckMagic : Bytes := [84, 76, 82, 65]

structure ReplayRequest where
  (maxBytes maxChunkBytes : Nat)
  mouseModes : Bool
  deriving DecidableEq

/-- The payload of the desktop's Attach frame. -/
def replayRequestPayload : Bytes :=
  replayRequestMagic ++ (toBeBytes32 (1024 * 1024) ++ toBeBytes32 ((64 * 1024) ||| 0x80000000))

def requestedReplayOptions (payload : Bytes) : Option ReplayRequest :=
  if payload.length ≠ replayRequestBytes ∨ payload.take 4 ≠ replayRequestMagic then none
  else
    let requestedBytes := getUint32 payload 4
    let chunkOptions := getUint32 payload 8
    let requestedChunkBytes := chunkOptions &&& 0x7fffffff
    some
      { maxBytes := min (max requestedBytes maxIoChunkBytes) maxRecentReplayBytes
        maxChunkBytes := min (max requestedChunkBytes maxIoChunkBytes) maxReplayWireChunkBytes
        mouseModes := decide (chunkOptions &&& replayMouseModesFlag ≠ 0) }

def word (count : Nat) : Nat := min count 0xffffffff

def replayAckPayload (eventCount outputBytes : Nat) (mouseModes : Option Nat) : Bytes :=
  replayAckMagic ++ (toBeBytes32 (word eventCount) ++ (toBeBytes32 (word outputBytes) ++
    (mouseModes.map toBeBytes32).getD []))

structure ReplayAck where
  (frames bytes : Nat)
  mouseModes : Option Nat

def decodeReplayAck (payload : Bytes) : Option ReplayAck :=
  if payload.length ∉ [12, 16] ∨ payload.take 4 ≠ replayAckMagic then none
  else
    let frames := getUint32 payload 4
    let bytes := getUint32 payload 8
    let mouseModes := if payload.length = 16 then some (getUint32 payload 12) else none
    if mouseModes.any fun modes => modes &&& 0xfffffe00 ≠ 0 || modes &&& 0xff > 4 then none
    else if frames ≤ 256 ∧ bytes ≤ 1024 * 1024 then some ⟨frames, bytes, mouseModes⟩
    else none

theorem requestedReplayOptions_desktop : requestedReplayOptions replayRequestPayload =
      some ⟨maxRecentReplayBytes, 64 * 1024, true⟩ := by decide +kernel

theorem modes_accepted : ∀ modes ∈ mouseModes,
    ¬ (modes &&& 0xfffffe00 ≠ 0 || modes &&& 0xff > 4) ∧ modes < 2 ^ 32 := by decide

theorem decodeReplayAck_replayAckPayload (few : frames ≤ 256)
    (bounded : bytes ≤ maxRecentReplayBytes) (known : modes ∈ mouseModes) :
    decodeReplayAck (replayAckPayload frames bytes (some modes)) =
      some ⟨frames, bytes, some modes⟩ := by
  have small : bytes ≤ 1024 * 1024 := bounded
  obtain ⟨accepted,fits⟩ := modes_accepted modes known
  have countRead : getUint32 (replayAckPayload frames bytes (some modes)) 4 = frames := by
    rw [replayAckPayload, getUint32_toBeBytes32 (by rw [word]; omega) (by rfl), word]
    omega
  have bytesRead : getUint32 (replayAckPayload frames bytes (some modes)) 8 = bytes := by
    rw [replayAckPayload, ← append_assoc, getUint32_toBeBytes32 (by rw [word]; omega) (by rfl),
      word]
    omega
  have modesRead : getUint32 (replayAckPayload frames bytes (some modes)) 12 = modes := by
    have shape : replayAckPayload frames bytes (some modes) =
        (replayAckMagic ++ toBeBytes32 (word frames) ++ toBeBytes32 (word bytes)) ++
          (toBeBytes32 modes ++ []) := by
      simp [replayAckPayload]
    rw [shape, getUint32_toBeBytes32 fits (by rfl)]
  have long : (replayAckPayload frames bytes (some modes)).length = 16 := rfl
  have magic : (replayAckPayload frames bytes (some modes)).take 4 = replayAckMagic := rfl
  simp only [decodeReplayAck, long, magic, countRead, bytesRead, modesRead]
  rw [if_neg (by decide), if_pos trivial, Option.any_some, if_neg accepted, if_pos ⟨few,small⟩]

section FrameCount

variable {limit : Nat} {chunks reads : List Bytes}

/-- Every chunk but the last is so long that not even one read more would fit. -/
def Filled (limit : Nat) (chunks : List Bytes) : Prop :=
  ∀ chunk ∈ chunks.dropLast, limit < chunk.length + maxIoChunkBytes

theorem coalesceInto_chunks (below : limit < u64Max) (filled : Filled limit chunks) {read : Bytes}
    (small : read.length ≤ maxIoChunkBytes) :
    ∃ more, coalesceInto limit (chunks.map .output) (.output read) = more.map .output ∧
      Filled limit more := by
  rcases eq_nil_or_concat chunks with empty | ⟨front,last,shape⟩
  · subst empty
    exact ⟨[read],rfl,nofun⟩
  have shape : chunks = front ++ [last] := shape.trans concat_eq_append
  subst shape
  have front_filled : ∀ chunk ∈ front, limit < chunk.length + maxIoChunkBytes := by
    intro chunk here
    exact filled chunk (by rwa [dropLast_concat])
  rw [map_append, map_singleton, coalesceInto, getLast?_concat]
  dsimp only
  split
  · refine ⟨front ++ [last ++ read],?_,?_⟩
    · rw [dropLast_concat, map_append, map_singleton]
    · rwa [Filled, dropLast_concat]
  next tooLong =>
  refine ⟨front ++ [last] ++ [read],?_,?_⟩
  · rw [map_append, map_append, map_singleton, map_singleton]
  · rw [Filled, dropLast_concat]
    intro chunk here
    rcases mem_append.mp here with older | newest
    · exact front_filled chunk older
    · rw [mem_singleton.mp newest]
      rw [saturatingAdd] at tooLong
      omega

theorem coalesce_chunks (below : limit < u64Max)
    (small : ∀ read ∈ reads, read.length ≤ maxIoChunkBytes) :
    ∀ chunks, Filled limit chunks →
      ∃ more, (reads.map .output).foldl (coalesceInto limit) (chunks.map .output) =
        more.map .output ∧ Filled limit more := by
  induction reads with
  | nil => exact fun chunks filled => ⟨chunks,rfl,filled⟩
  | cons read reads ih =>
    intro chunks filled
    obtain ⟨next,step,filled⟩ := coalesceInto_chunks below filled (small read mem_cons_self)
    rw [map_cons, foldl_cons, step]
    exact ih (fun later here => small later (mem_cons_of_mem _ here)) next filled

theorem filled_length : ∀ {chunks : List Bytes}, (∀ chunk ∈ chunks.dropLast, share ≤ chunk.length) →
      (chunks.length - 1) * share ≤ readLengths chunks := by
  intro chunks
  induction chunks with
  | nil => exact fun _ => by simp
  | cons first rest ih =>
    intro long
    cases rest with
    | nil => simp
    | cons second rest =>
      rw [dropLast_cons_cons] at long
      have tail := ih fun chunk here => long chunk (mem_cons_of_mem _ here)
      have head := long first mem_cons_self
      simp only [length_cons, Nat.add_sub_cancel, readLengths_cons] at tail ⊢
      rw [Nat.succ_mul]
      omega

theorem attachmentReplay_chunks (held : Holds reads closed dropped replay)
    (small : ∀ read ∈ reads, read.length ≤ maxIoChunkBytes) :
    ∃ omitted chunks, replay.attachmentReplay maxRecentReplayBytes (64 * 1024) =
        gapPrefix omitted ++ (chunks.map .output ++ if closed then [.eof] else []) ∧
      Filled (64 * 1024) chunks ∧ readLengths chunks ≤ maxRecentReplayBytes := by
  obtain ⟨omitted,-,budget,-,kept⟩ := retention_holds held maxRecentReplayBytes
  have start : Filled (64 * 1024) [] := nofun
  have retained : ∀ read ∈ reads.drop omitted, read.length ≤ maxIoChunkBytes :=
    fun read here => small read (mem_of_mem_drop here)
  obtain ⟨chunks,folded,filled⟩ := coalesce_chunks (by decide) retained [] start
  have snapshot : replay.attachmentReplay maxRecentReplayBytes (64 * 1024) =
      gapPrefix (replay.retention maxRecentReplayBytes).omittedFrames ++
        coalesce (64 * 1024) (replay.retention maxRecentReplayBytes).retained := by
    have enabled := held.enabled
    rw [RecentReplay.attachmentReplay, if_pos (Nat.le_refl _), if_neg (by decide),
      RecentReplay.snapshotWithOptions, enabled]
    rfl
  have coalesced : coalesce (64 * 1024) (replay.retention maxRecentReplayBytes).retained =
      chunks.map .output ++ if closed then [.eof] else [] := by
    rw [kept, coalesce, foldl_append]
    rw [map_nil] at folded
    rw [folded]
    cases closed
    · exact (append_nil _).symm
    · rfl
  refine ⟨_,chunks,snapshot.trans (congrArg _ coalesced),filled,?_⟩
  have bytes := (coalesce_spec (64 * 1024) ((reads.drop omitted).map .output) []).1
  rw [show ([] : List TerminalEvent) = [].map .output from rfl, folded] at bytes
  have same : chunks.flatten = (reads.drop omitted).flatten := by
    rw [← outputBytes_reads, ← outputBytes_reads, bytes, map_nil, outputBytes_nil, nil_append]
  calc readLengths chunks = chunks.flatten.length := by rw [length_flatten, readLengths]
    _ = readLengths (reads.drop omitted) := by rw [same, length_flatten, readLengths]
    _ ≤ maxRecentReplayBytes := by omega

theorem replay_frames_few {closed : Bool}
    (filled : Filled (64 * 1024) chunks) (bounded : readLengths chunks ≤ maxRecentReplayBytes) :
    (gapPrefix omitted ++ (chunks.map TerminalEvent.output ++
      if closed then [TerminalEvent.eof] else [])).length ≤ 256 := by
  have share : (chunks.length - 1) * (48 * 1024) ≤ readLengths chunks := by
    refine filled_length fun chunk here => ?_
    have long := filled chunk here
    simp only [maxIoChunkBytes] at long
    omega
  have gaps : (gapPrefix omitted).length ≤ 1 := by
    unfold gapPrefix
    split <;> simp
  have ends : (if closed then [TerminalEvent.eof] else []).length ≤ 1 := by
    cases closed <;> decide
  simp only [maxRecentReplayBytes] at bounded
  rw [length_append, length_append, length_map]
  omega

end FrameCount

end TermloopReplayWire
