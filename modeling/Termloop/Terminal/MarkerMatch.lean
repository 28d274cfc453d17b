import Termloop.Lib.Overlaps

/-!
The streaming matcher of a fixed marker. On a mismatch it falls back to the marker's first byte
or to nothing; a marker whose first byte does not come again has no other overlap with itself.
-/
namespace TermloopMarkers
open TermloopOverlaps List

/-- The index is in range as long as `matched` is below the marker's length. -/
def recordMarker (byte : UInt8) (marker : List UInt8) (matched : Nat) : Bool × Nat :=
  if marker[matched]? = some byte then
    if matched + 1 = marker.length then (true, 0) else (false, matched + 1)
  else (false, if marker[0]? = some byte then 1 else 0)

def record (marker : List UInt8) (seen : List Bool × Nat) (byte : UInt8) : List Bool × Nat :=
  let (found, matched) := recordMarker byte marker seen.2
  (seen.1 ++ [found], matched)

def recordChunks (marker : List UInt8) (chunks : List (List UInt8)) : List Bool × Nat :=
  chunks.foldl (fun seen chunk => chunk.foldl (record marker) seen) ([], 0)

def occurrences (marker stream : List UInt8) : List Bool :=
  (range stream.length).map fun i => decide (marker <:+ stream.take (i + 1))

structure Tracks (marker stream : List UInt8) (matched : Nat) : Prop where
  inside : matched < marker.length
  overlap : Overlap marker stream matched
  most : ∀ j, j < marker.length → Overlap marker stream j → j ≤ matched

section Steps
variable {marker stream : List UInt8} {byte : UInt8} {matched j n : Nat}

theorem overlap_whole : Overlap marker stream marker.length ↔ marker <:+ stream := by
  simp [Overlap]

theorem no_shorter (fresh : ∀ first ∈ marker.head?, first ∉ marker.tail)
    (one : Overlap marker stream n) (other : Overlap marker stream j) (less : j < n) : j = 0 := by
  have inner := (overlap_below one less).mp other
  cases marker with
  | nil => exact Nat.le_zero.mp inner.1
  | cons first rest =>
    cases j with
    | zero => rfl
    | succ j =>
      have again : first ∈ ((first :: rest).take n).tail := inner.2.subset mem_cons_self
      rw [← drop_one, drop_take, drop_one] at again
      exact absurd (mem_of_mem_take again) (fresh first rfl)

theorem occurrences_snoc : occurrences marker (stream ++ [byte]) =
    occurrences marker stream ++ [decide (marker <:+ stream ++ [byte])] := by
  unfold occurrences
  rw [length_append, length_singleton, range_succ, map_append]
  congr 1
  · apply map_congr_left
    intro i below
    rw [take_append_of_le_length (mem_range.mp below)]
  · simp [take_of_length_le]

theorem recordMarker_tracks (fresh : ∀ first ∈ marker.head?, first ∉ marker.tail)
    (long : 2 ≤ marker.length) (tracks : Tracks marker stream matched) :
    Tracks marker (stream ++ [byte]) (recordMarker byte marker matched).2
      ∧ (recordMarker byte marker matched).1 = decide (marker <:+ stream ++ [byte]) := by
  obtain ⟨inside,overlap,most⟩ := tracks
  have whole : marker <:+ stream ++ [byte] ↔
      matched + 1 = marker.length ∧ marker[matched]? = some byte := by
    obtain ⟨last,size⟩ : ∃ last, marker.length = last + 1 := ⟨marker.length - 1,by omega⟩
    rw [← overlap_whole, size, overlap_snoc]
    constructor
    · rintro ⟨pre,fits⟩
      have := most last (by omega) pre
      have same : last = matched := by omega
      exact ⟨by omega,same ▸ fits⟩
    · rintro ⟨same,fits⟩
      have : last = matched := by omega
      exact this ▸ ⟨overlap,fits⟩
  unfold recordMarker
  split
  next fits =>
    have longer := overlap_snoc.mpr ⟨overlap,fits⟩
    split
    next full =>
      refine ⟨⟨by omega,overlap_zero,fun j below other => ?_⟩,by simp [whole, full, fits]⟩
      exact Nat.le_of_eq (no_shorter fresh longer other (by omega))
    next short =>
      refine ⟨⟨by omega,longer,fun j below other => ?_⟩,by simp [whole, short]⟩
      cases j with
      | zero => omega
      | succ j =>
        have := most j (by omega) (overlap_snoc.mp other).1
        omega
  next differs =>
    refine ⟨⟨by split <;> omega,?_,fun j below other => ?_⟩,by simp [whole, differs]⟩
    · split
      next starts => exact overlap_snoc.mpr ⟨overlap_zero,starts⟩
      next => exact overlap_zero
    · cases j with
      | zero => omega
      | succ j =>
        obtain ⟨pre,fits⟩ := overlap_snoc.mp other
        have least := most j (by omega) pre
        have apart : j ≠ matched := by
          rintro rfl
          exact differs fits
        have first := no_shorter fresh overlap pre (by omega)
        rw [first] at fits
        rw [if_pos fits, first]

theorem record_tracks (fresh : ∀ first ∈ marker.head?, first ∉ marker.tail)
    (long : 2 ≤ marker.length) (rest : List UInt8) (tracks : Tracks marker stream matched) :
    ∃ last, rest.foldl (record marker) (occurrences marker stream, matched) =
        (occurrences marker (stream ++ rest), last)
      ∧ Tracks marker (stream ++ rest) last := by
  induction rest generalizing stream matched with
  | nil => exact ⟨matched,by simp,by simpa using tracks⟩
  | cons byte rest ih =>
    obtain ⟨next,ans⟩ := @recordMarker_tracks _ _ byte _ fresh long tracks
    have step : record marker (occurrences marker stream, matched) byte =
        (occurrences marker (stream ++ [byte]), (recordMarker byte marker matched).2) := by
      rw [occurrences_snoc, ← ans]
      rfl
    rw [append_cons, foldl_cons, step]
    exact ih next

end Steps

/-- However the stream is cut, the matcher answers at the ends of occurrences and nowhere else,
    and its index never leaves the marker. -/
theorem marker_matcher_finds_occurrences {marker : List UInt8} (long : 2 ≤ marker.length)
    (fresh : ∀ first ∈ marker.head?, first ∉ marker.tail) (chunks : List (List UInt8)) :
    (recordChunks marker chunks).1 = occurrences marker chunks.flatten
      ∧ (recordChunks marker chunks).2 < marker.length := by
  have start : Tracks marker [] 0 :=
    ⟨by omega,overlap_zero,fun j _ other => overlap_length other⟩
  obtain ⟨last,done,tracks⟩ := record_tracks fresh long chunks.flatten start
  have joined : recordChunks marker chunks = chunks.flatten.foldl (record marker) ([], 0) :=
    foldl_flatten.symm
  rw [joined, show ([] : List Bool) = occurrences marker [] from rfl, done]
  exact ⟨rfl,tracks.inside⟩

theorem marker_found_across_chunks :
    (recordChunks [1, 2] [[1], [2, 1]]).1 = [false, true, false] := by
  rw [(marker_matcher_finds_occurrences (by decide) (by simp) [[1], [2, 1]]).1]
  decide +kernel

end TermloopMarkers
