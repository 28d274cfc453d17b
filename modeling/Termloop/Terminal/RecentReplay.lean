import Mathlib.Algebra.GroupWithZero.Nat
import Termloop.Lib.Operations

/-!
The bounded replay ring of one terminal runtime: what the PTY reader records,
what the ring evicts, and the frozen snapshot an attachment receives. The mouse
mode tracker is driven by a third-party escape parser and stays a parameter.
-/
namespace TermloopReplay
open TermloopSaturating List

abbrev Bytes := List UInt8

def maxIoChunkBytes : Nat := 16 * 1024
def maxRecentReplayBytes : Nat := 1024 * 1024

inductive TerminalEvent where
  | output (bytes : Bytes)
  | gap (count : Nat)
  | eof

/-- The byte-free mouse protocol tracker beside the ring. -/
structure MouseTracker (Tracker : Type) where
  initial : Tracker
  record : Tracker → Bytes → Tracker
  snapshot : Tracker → Nat

structure RecentReplay (Tracker : Type) where
  enabled : Bool
  (bytes droppedFrames : Nat)
  events : List TerminalEvent
  mouseModes : Tracker

variable {Tracker : Type}

/-- The oldest events leave the ring until the incoming read fits or nothing is left. -/
def evict (incoming : Nat) : Nat → Nat → List TerminalEvent → Nat × Nat × List TerminalEvent
  | bytes, dropped, [] => (bytes, dropped, [])
  | bytes, dropped, event :: rest =>
    if saturatingAdd bytes incoming > maxRecentReplayBytes then
      match event with
      | .output discarded =>
        evict incoming (bytes - discarded.length) (saturatingAdd dropped 1) rest
      | .gap _ => evict incoming bytes dropped rest
      | .eof => evict incoming bytes dropped rest
    else (bytes, dropped, event :: rest)

def RecentReplay.recordOutput (mouse : MouseTracker Tracker) (replay : RecentReplay Tracker)
    (bytes : Bytes) : RecentReplay Tracker :=
  let replay := { replay with mouseModes := mouse.record replay.mouseModes bytes }
  if !replay.enabled || decide (bytes.length > maxRecentReplayBytes) then replay
  else
    let (kept, dropped, events) := evict bytes.length replay.bytes replay.droppedFrames replay.events
    { replay with
      bytes := kept + bytes.length, droppedFrames := dropped, events := events ++ [.output bytes] }

def RecentReplay.recordEof (replay : RecentReplay Tracker) : RecentReplay Tracker :=
  if replay.enabled then { replay with events := replay.events ++ [.eof] } else replay

/-- Loop state of the newest-first pass over the ring. -/
structure Retention where
  remaining : Nat
  budgetExhausted : Bool
  omittedFrames : Nat
  retained : List TerminalEvent

def Retention.visit (r : Retention) : TerminalEvent → Retention
  | .output bytes =>
    if !r.budgetExhausted && decide (bytes.length ≤ r.remaining) then
      { r with remaining := r.remaining - bytes.length, retained := .output bytes :: r.retained }
    else { r with budgetExhausted := true, omittedFrames := saturatingAdd r.omittedFrames 1 }
  | .gap count => { r with retained := .gap count :: r.retained }
  | .eof => { r with retained := .eof :: r.retained }

def coalesceInto (chunkLimit : Nat) (snapshot : List TerminalEvent) :
    TerminalEvent → List TerminalEvent
  | .output bytes =>
    match snapshot.getLast? with
    | some (.output existing) =>
      if saturatingAdd existing.length bytes.length ≤ chunkLimit then
        snapshot.dropLast ++ [.output (existing ++ bytes)]
      else snapshot ++ [.output bytes]
    | _ => snapshot ++ [.output bytes]
  | .gap count => snapshot ++ [.gap count]
  | .eof => snapshot ++ [.eof]

def coalesce (chunkLimit : Nat) (retained : List TerminalEvent) : List TerminalEvent :=
  retained.foldl (coalesceInto chunkLimit) []

def chunkLimit (maxChunkBytes : Nat) : Nat :=
  min (max maxChunkBytes maxIoChunkBytes) maxRecentReplayBytes

def RecentReplay.retention (replay : RecentReplay Tracker) (maxOutputBytes : Nat) : Retention :=
  replay.events.reverse.foldl Retention.visit
    ⟨min maxOutputBytes maxRecentReplayBytes, false, replay.droppedFrames, []⟩

def gapPrefix (omitted : Nat) : List TerminalEvent := if omitted > 0 then [.gap omitted] else []

def RecentReplay.snapshotWithOptions (replay : RecentReplay Tracker)
    (maxOutputBytes maxChunkBytes : Nat) : List TerminalEvent :=
  if !replay.enabled then []
  else
    let kept := replay.retention maxOutputBytes
    gapPrefix kept.omittedFrames ++ coalesce (chunkLimit maxChunkBytes) kept.retained

def RecentReplay.snapshot (replay : RecentReplay Tracker) : List TerminalEvent :=
  replay.snapshotWithOptions maxRecentReplayBytes maxIoChunkBytes

/-- The snapshot handed to an attachment with these two limits. -/
def RecentReplay.attachmentReplay (replay : RecentReplay Tracker)
    (maxReplayBytes maxReplayChunkBytes : Nat) : List TerminalEvent :=
  if maxReplayBytes ≥ maxRecentReplayBytes then
    if maxReplayChunkBytes ≤ maxIoChunkBytes then replay.snapshot
    else replay.snapshotWithOptions maxReplayBytes maxReplayChunkBytes
  else replay.snapshotWithOptions maxReplayBytes maxReplayChunkBytes

def outputBytes (events : List TerminalEvent) : Bytes :=
  events.flatMap fun event =>
    match event with
    | .output bytes => bytes
    | .gap _ => []
    | .eof => []

def GapFree (events : List TerminalEvent) : Prop := ∀ count, TerminalEvent.gap count ∉ events

def readLengths (reads : List Bytes) : Nat := (reads.map List.length).sum

@[simp] theorem outputBytes_nil : outputBytes [] = [] := rfl

@[simp] theorem outputBytes_append (a b : List TerminalEvent) :
    outputBytes (a ++ b) = outputBytes a ++ outputBytes b := by
  simp [outputBytes]

@[simp] theorem outputBytes_cons_output (bytes : Bytes) (rest : List TerminalEvent) :
    outputBytes (.output bytes :: rest) = bytes ++ outputBytes rest := rfl

@[simp] theorem outputBytes_cons_gap (count : Nat) (rest : List TerminalEvent) :
    outputBytes (.gap count :: rest) = outputBytes rest := rfl

@[simp] theorem outputBytes_cons_eof (rest : List TerminalEvent) :
    outputBytes (.eof :: rest) = outputBytes rest := rfl

@[simp] theorem outputBytes_gapPrefix (omitted : Nat) : outputBytes (gapPrefix omitted) = [] := by
  unfold gapPrefix
  split <;> rfl

variable {reads : List Bytes} {dropped : Nat} {replay : RecentReplay Tracker} {closed : Bool}

theorem outputBytes_reads (reads : List Bytes) :
    outputBytes (reads.map .output) = reads.flatten := by
  induction reads with
  | nil => rfl
  | cons read reads ih => simp [ih]

theorem gapFree_append (left : GapFree a) (right : GapFree b) : GapFree (a ++ b) := by
  intro count member
  rcases mem_append.mp member with h | h
  · exact left count h
  · exact right count h

theorem gapFree_reads (reads : List Bytes) : GapFree (reads.map .output) := by
  intro count member
  simp at member

theorem gapFree_of_subset (subset : a ⊆ b) (free : GapFree b) : GapFree a :=
  fun count member => free count (subset member)

@[simp] theorem readLengths_cons (read : Bytes) (reads : List Bytes) :
    readLengths (read :: reads) = read.length + readLengths reads := by
  simp [readLengths]

/-- The reads past the first `dropped`, then the end marker once the reader has closed. -/
structure Holds (reads : List Bytes) (closed : Bool) (dropped : Nat)
    (replay : RecentReplay Tracker) : Prop where
  enabled : replay.enabled = true
  within : dropped ≤ reads.length
  events : replay.events = (reads.drop dropped).map .output ++ if closed then [.eof] else []
  counted : replay.droppedFrames = min dropped u64Max
  bytes : replay.bytes = readLengths (reads.drop dropped)
  bounded : replay.bytes ≤ maxRecentReplayBytes

theorem evict_reads (fits : incoming ≤ maxRecentReplayBytes) :
    ∀ (reads : List Bytes) (dropped : Nat), readLengths reads ≤ maxRecentReplayBytes →
      ∃ k, k ≤ reads.length ∧
        evict incoming (readLengths reads) (min dropped u64Max) (reads.map .output) =
          (readLengths (reads.drop k), min (dropped + k) u64Max, (reads.drop k).map .output) ∧
        readLengths (reads.drop k) + incoming ≤ maxRecentReplayBytes := by
  intro reads
  induction reads with
  | nil =>
    intro dropped _
    exact ⟨0,by simp,by simp [evict],by simpa [readLengths] using fits⟩
  | cons read reads ih =>
    intro dropped bounded
    -- A 1 MiB ring plus one read is far below the word limit, so the guard is exact.
    have exact_sum : saturatingAdd (readLengths (read :: reads)) incoming =
        readLengths (read :: reads) + incoming := by
      apply saturatingAdd_of_le
      simp only [maxRecentReplayBytes, u64Max] at *
      omega
    by_cases full : readLengths (read :: reads) + incoming > maxRecentReplayBytes
    · simp only [readLengths_cons] at bounded
      obtain ⟨k,le,run,room⟩ := ih (dropped + 1) (by omega)
      refine ⟨k + 1,by simpa using le,?_,by simpa using room⟩
      simp only [map_cons, evict, exact_sum, full, ↓reduceIte, saturatingAdd_counts]
      simp only [readLengths_cons, Nat.add_sub_cancel_left, run, drop_succ_cons]
      simp only [Nat.add_assoc, Nat.add_comm 1 k]
    · refine ⟨0,by simp,?_,by simp only [drop_zero]; omega⟩
      simp only [map_cons, evict, exact_sum, full, ↓reduceIte, drop_zero, Nat.add_zero]

theorem recordOutput_holds (mouse : MouseTracker Tracker) (held : Holds reads false dropped replay)
    (bytes : Bytes) (small : bytes.length ≤ maxIoChunkBytes) :
    ∃ more, Holds (reads ++ [bytes]) false more (replay.recordOutput mouse bytes) := by
  have fits : bytes.length ≤ maxRecentReplayBytes := by
    simp only [maxIoChunkBytes, maxRecentReplayBytes] at *
    omega
  obtain ⟨k,le,run,room⟩ :=
    evict_reads fits (reads.drop dropped) dropped (held.bytes ▸ held.bounded)
  have bound : dropped + k ≤ reads.length := by
    have := held.within
    simp only [length_drop] at le
    omega
  have kept : (reads ++ [bytes]).drop (dropped + k) = (reads.drop dropped).drop k ++ [bytes] := by
    rw [drop_append_of_le_length bound, drop_drop]
  have notLarge : ¬ bytes.length > maxRecentReplayBytes := by omega
  have ringEvents := held.events
  simp only [Bool.false_eq_true, ↓reduceIte, append_nil] at ringEvents
  have recorded : replay.recordOutput mouse bytes = { replay with
        mouseModes := mouse.record replay.mouseModes bytes
        bytes := readLengths ((reads.drop dropped).drop k) + bytes.length
        droppedFrames := min (dropped + k) u64Max
        events := ((reads.drop dropped).drop k).map .output ++ [.output bytes] } := by
    simp only [RecentReplay.recordOutput, held.enabled, notLarge, Bool.not_true, Bool.or_self,
      decide_false, Bool.false_eq_true, ↓reduceIte, ringEvents, held.counted, held.bytes, run]
  refine ⟨dropped + k,?_⟩
  rw [recorded]
  refine ⟨held.enabled,?_,?_,rfl,?_,room⟩
  · simp only [length_append]
    omega
  · simp [kept]
  · simp [kept, readLengths]

theorem recordEof_holds (held : Holds reads false dropped replay) :
    Holds reads true dropped replay.recordEof := by
  have ringEvents := held.events
  simp only [Bool.false_eq_true, ↓reduceIte, append_nil] at ringEvents
  have recorded : replay.recordEof = { replay with events := replay.events ++ [.eof] } := by
    simp only [RecentReplay.recordEof, held.enabled, ↓reduceIte]
  rw [recorded]
  exact ⟨held.enabled,held.within,by simp [ringEvents],held.counted,held.bytes,held.bounded⟩

theorem retention_reads (rest dropped : Nat) (tail : List TerminalEvent) (reads : List Bytes) :
    ∃ k left, k ≤ reads.length ∧ readLengths (reads.drop k) + left = rest ∧
      (reads.map TerminalEvent.output).foldr (fun event r => Retention.visit r event)
          ⟨rest, false, min dropped u64Max, tail⟩ =
        ⟨left, decide (0 < k), min (dropped + k) u64Max, (reads.drop k).map .output ++ tail⟩ := by
  induction reads with
  | nil => exact ⟨0,rest,by simp,by simp [readLengths],by simp⟩
  | cons read reads ih =>
    obtain ⟨k,left,le,spent,run⟩ := ih
    by_cases fits : (!decide (0 < k) && decide (read.length ≤ left))
    · have room : k = 0 ∧ read.length ≤ left := by simpa using fits
      obtain ⟨rfl,room⟩ := room
      refine ⟨0,left - read.length,by simp,?_,?_⟩
      · simp only [drop_zero, readLengths_cons] at spent ⊢
        omega
      rw [map_cons, foldr_cons, run]
      simp only [Retention.visit, fits, ↓reduceIte]
      simp
    · refine ⟨k + 1,left,by simpa using le,spent,?_⟩
      rw [map_cons, foldr_cons, run]
      simp only [Retention.visit, fits, Bool.false_eq_true, ↓reduceIte, saturatingAdd_counts]
      simp [Nat.add_assoc]

theorem retention_holds (held : Holds reads closed dropped replay) (budget : Nat) :
    ∃ omitted, omitted ≤ reads.length ∧
      readLengths (reads.drop omitted) ≤ min budget maxRecentReplayBytes ∧
      (replay.retention budget).omittedFrames = min omitted u64Max ∧
      (replay.retention budget).retained =
        (reads.drop omitted).map .output ++ if closed then [.eof] else [] := by
  obtain ⟨k,left,le,spent,run⟩ := retention_reads (min budget maxRecentReplayBytes) dropped
    (if closed then [.eof] else []) (reads.drop dropped)
  have pass : replay.retention budget = ⟨left,decide (0 < k),min (dropped + k) u64Max,
        ((reads.drop dropped).drop k).map .output ++ if closed then [.eof] else []⟩ := by
    rw [← run]
    simp only [RecentReplay.retention, foldl_reverse, held.events, held.counted, foldr_append]
    cases closed <;> rfl
  have bound : dropped + k ≤ reads.length := by
    have := held.within
    simp only [length_drop] at le
    omega
  rw [drop_drop] at spent
  refine ⟨dropped + k,bound,by omega,by rw [pass],?_⟩
  rw [pass, drop_drop]

theorem coalesceInto_outputBytes :
    outputBytes (coalesceInto limit snapshot event) = outputBytes (snapshot ++ [event]) := by
  cases event with
  | gap count => rfl
  | eof => rfl
  | output bytes =>
    simp only [coalesceInto]
    split
    · rename_i existing last
      split
      · have shape := dropLast_append_getLast? _ last
        conv => rhs; rw [← shape]
        simp
      · rfl
    · rfl

theorem coalesceInto_gapFree (free : GapFree (snapshot ++ [event])) :
    GapFree (coalesceInto limit snapshot event) := by
  cases event with
  | gap count => exact free
  | eof => exact free
  | output bytes =>
    simp only [coalesceInto]
    split
    · split
      · have front : GapFree snapshot.dropLast :=
          gapFree_of_subset (fun _ member => mem_append_left _ (dropLast_subset _ member)) free
        exact gapFree_append front (by intro count member; simp at member)
      · exact free
    · exact free

theorem coalesce_spec (limit : Nat) (retained snapshot : List TerminalEvent) :
    outputBytes (retained.foldl (coalesceInto limit) snapshot) =
        outputBytes snapshot ++ outputBytes retained ∧
      (GapFree (snapshot ++ retained) → GapFree (retained.foldl (coalesceInto limit) snapshot)) :=
        by
  induction retained generalizing snapshot with
  | nil => simp
  | cons event rest ih =>
    obtain ⟨bytes,gaps⟩ := ih (coalesceInto limit snapshot event)
    simp only [foldl_cons]
    constructor
    · rw [bytes, coalesceInto_outputBytes, outputBytes_append, append_assoc,
        ← outputBytes_append, singleton_append]
    · intro free
      apply gaps
      have front : GapFree (snapshot ++ [event]) :=
        gapFree_of_subset (by intro x member; simp at member ⊢; tauto) free
      have back : GapFree rest :=
        gapFree_of_subset (by intro x member; simp [member]) free
      exact gapFree_append (coalesceInto_gapFree front) back

theorem snapshotWithOptions_spec (held : Holds reads closed dropped replay) :
    ∃ omitted body, omitted ≤ reads.length ∧
      readLengths (reads.drop omitted) ≤ min maxOutputBytes maxRecentReplayBytes ∧
      replay.snapshotWithOptions maxOutputBytes maxChunkBytes =
        gapPrefix (min omitted u64Max) ++ body ∧
      GapFree body ∧ outputBytes body = (reads.drop omitted).flatten := by
  obtain ⟨omitted,within,budget,count,kept⟩ := retention_holds held maxOutputBytes
  obtain ⟨bytes,gaps⟩ := coalesce_spec (chunkLimit maxChunkBytes)
    (replay.retention maxOutputBytes).retained []
  refine ⟨omitted,coalesce (chunkLimit maxChunkBytes) (replay.retention maxOutputBytes).retained,
    within,budget,?_,?_,?_⟩
  · simp only [RecentReplay.snapshotWithOptions, held.enabled, Bool.not_true, Bool.false_eq_true,
      ↓reduceIte, count]
  · apply gaps
    rw [kept, nil_append]
    refine gapFree_append (gapFree_reads _) ?_
    intro gap member
    cases closed <;> simp at member
  · rw [coalesce, bytes, kept, outputBytes_append, outputBytes_reads]
    cases closed <;> simp

theorem attachmentReplay_spec (held : Holds reads closed dropped replay)
    (maxReplayBytes maxReplayChunkBytes : Nat) :
    ∃ omitted body, omitted ≤ reads.length ∧
      readLengths (reads.drop omitted) ≤ min maxReplayBytes maxRecentReplayBytes ∧
      replay.attachmentReplay maxReplayBytes maxReplayChunkBytes =
        gapPrefix (min omitted u64Max) ++ body ∧
      GapFree body ∧ outputBytes body = (reads.drop omitted).flatten := by
  unfold RecentReplay.attachmentReplay RecentReplay.snapshot
  split
  · rename_i whole
    split
    · obtain ⟨omitted,body,within,budget,rest⟩ :=
        snapshotWithOptions_spec held
      exact ⟨omitted,body,within,by omega,rest⟩
    · exact snapshotWithOptions_spec held
  · exact snapshotWithOptions_spec held

end TermloopReplay
