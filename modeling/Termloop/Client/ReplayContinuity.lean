import Termloop.Lib.Overlaps

/-!
What a terminal keeps of its output, and how a replay is joined to it. The kept tail is a
ring that each write runs around; the join looks for the longest end of the tail that the
replay begins with, by the failure function of the replay. A read outside an array and a
write past its end have no answer here.
-/
namespace TermloopContinuity
open TermloopOverlaps List

abbrev Bytes : Type := List UInt8

def limit : Nat := 1024 * 1024

structure TerminalOutputTail where
  ring : Bytes := []
  size : Nat := 0
  offset : Nat := 0

def setAt (ring bytes : Bytes) (offset : Nat) : Option Bytes :=
  if offset + bytes.length ≤ ring.length then
    some (ring.take offset ++ bytes ++ ring.drop (offset + bytes.length))
  else none

def TerminalOutputTail.append (tail : TerminalOutputTail) (bytes : Bytes) :
    Option TerminalOutputTail :=
  if bytes.isEmpty then some tail
  else
    let ring := if tail.ring.isEmpty then List.replicate limit 0 else tail.ring
    if limit ≤ bytes.length then do
      let ring ← setAt ring (bytes.drop (bytes.length - limit)) 0
      pure ⟨ring, limit, 0⟩
    else do
      let first := min bytes.length (limit - tail.offset)
      let ring ← setAt ring (bytes.take first) tail.offset
      let ring ← setAt ring (bytes.drop first) 0
      pure ⟨ring, min limit (tail.size + bytes.length), (tail.offset + bytes.length) % limit⟩

def TerminalOutputTail.clear (tail : TerminalOutputTail) : TerminalOutputTail :=
  { tail with size := 0, offset := 0 }

def TerminalOutputTail.snapshot (tail : TerminalOutputTail) : Bytes :=
  let start := (tail.offset + limit - tail.size) % limit
  let first := min tail.size (limit - start)
  (tail.ring.drop start).take first ++ tail.ring.take (tail.size - first)

inductive TailAction where
  | append (bytes : Bytes)
  | clear

def TerminalOutputTail.run (tail : TerminalOutputTail) :
    List TailAction → Option TerminalOutputTail
  | [] => some tail
  | .append bytes :: rest => do (← tail.append bytes).run rest
  | .clear :: rest => tail.clear.run rest

def appended (before : Bytes) : List TailAction → Bytes
  | [] => before
  | .append bytes :: rest => appended (before ++ bytes) rest
  | .clear :: rest => appended [] rest

/-- The ring read from its offset on: the newest byte is the last one. -/
def TerminalOutputTail.unrolled (tail : TerminalOutputTail) : Bytes :=
  tail.ring.drop tail.offset ++ tail.ring.take tail.offset

structure Holds (tail : TerminalOutputTail) (written : Bytes) : Prop where
  offset : tail.offset < limit
  size : tail.size = min limit written.length
  ring : (tail.ring = [] ∧ tail.size = 0 ∧ tail.offset = 0) ∨ tail.ring.length = limit
  suffix : written.drop (written.length - tail.size) <:+ tail.unrolled

theorem limit_positive : 0 < limit := by decide

theorem wrapped (bound : x < 2 * limit) : x % limit = if x < limit then x else x - limit := by
  split
  · next less => exact Nat.mod_eq_of_lt less
  · next more => rw [Nat.mod_eq_sub_mod (by omega), Nat.mod_eq_of_lt (by omega)]

theorem cut_at {l : Bytes} (within : n ≤ l.length) : ∃ a b, l = a ++ b ∧ a.length = n :=
  ⟨l.take n,l.drop n,(take_append_drop n l).symm,by simp [within]⟩

theorem setAt_middle (same : b.length = bytes.length) :
    setAt (a ++ b ++ c) bytes a.length = some (a ++ bytes ++ c) := by
  simp [setAt, append_assoc, same, drop_append]

theorem setAt_whole (same : ring.length = bytes.length) : setAt ring bytes 0 = some bytes := by
  have left : ring.drop (0 + bytes.length) = [] := drop_eq_nil_of_le (by omega)
  rw [setAt, if_pos (by omega), left]
  simp

theorem write_unrolled {ring bytes : Bytes} (whole : ring.length = limit)
    (inside : offset < limit) (short : bytes.length < limit) :
    ∃ once twice, setAt ring (bytes.take (min bytes.length (limit - offset))) offset = some once ∧
      setAt once (bytes.drop (min bytes.length (limit - offset))) 0 = some twice ∧
      twice.length = limit ∧
      twice.drop ((offset + bytes.length) % limit) ++ twice.take ((offset + bytes.length) % limit) =
        (ring.drop offset ++ ring.take offset).drop bytes.length ++ bytes := by
  obtain ⟨a,rest,rfl,rfl⟩ := cut_at (whole ▸ inside.le : offset ≤ ring.length)
  rw [length_append] at whole
  rw [wrapped (by omega)]
  by_cases fits : bytes.length ≤ limit - a.length
  · obtain ⟨b,c,rfl,same⟩ := cut_at (by omega : bytes.length ≤ rest.length)
    rw [length_append] at whole
    rw [Nat.min_eq_left fits, take_length, drop_length, ← append_assoc, setAt_middle same]
    refine ⟨_,a ++ bytes ++ c,rfl,by simp [setAt],?_,?_⟩
    · simp
      omega
    · split
      · have front : (a ++ bytes).length = a.length + bytes.length := length_append
        rw [drop_left' front, take_left' front]
        simp [append_assoc, drop_left' same]
      · have none_left : c = [] := eq_nil_of_length_eq_zero (by omega)
        have back : a.length + bytes.length - limit = 0 := by omega
        simp [none_left, back, same]
  · obtain ⟨x,y,rfl,same⟩ := cut_at (by omega : limit - a.length ≤ bytes.length)
    rw [length_append] at short fits ⊢
    obtain ⟨u,v,rfl,under⟩ := cut_at (by omega : y.length ≤ a.length)
    have sizes : (u ++ v).length = u.length + v.length := length_append
    have least : min (x.length + y.length) (limit - (u ++ v).length) = x.length := by omega
    have back : (u ++ v).length + (x.length + y.length) - limit = y.length := by omega
    rw [least, take_left, drop_left]
    refine ⟨u ++ v ++ x,y ++ v ++ x,?_,?_,?_,?_⟩
    · have end_write := setAt_middle (a := u ++ v) (c := []) (by omega : rest.length = x.length)
      simpa using end_write
    · have front_write := setAt_middle (a := []) (c := v ++ x) (by omega : u.length = y.length)
      simpa using front_write
    · simp only [length_append]
      omega
    · rw [if_neg (by omega), back, append_assoc y, drop_left, take_left]
      have skip : rest.length + u.length = x.length + y.length := by omega
      simp only [drop_left, take_left]
      rw [← append_assoc rest, drop_left' (by simpa using skip)]
      simp

theorem length_unrolled {ring : Bytes} (inside : offset ≤ ring.length) :
    (ring.drop offset ++ ring.take offset).length = ring.length := by
  simp
  omega

theorem suffix_append (c : Bytes) (suffix : a <:+ b) : a ++ c <:+ b ++ c := by
  obtain ⟨front,rfl⟩ := suffix
  exact ⟨front,by simp⟩

theorem holds_ring {tail : TerminalOutputTail} (holds : Holds tail saved) :
    ∃ ring, (if tail.ring.isEmpty then List.replicate limit 0 else tail.ring) = ring ∧
      ring.length = limit ∧ saved.drop (saved.length - tail.size) <:+
        ring.drop tail.offset ++ ring.take tail.offset := by
  rcases holds.ring with ⟨empty,size,offset⟩ | whole
  · refine ⟨_,by rw [empty]; rfl,length_replicate,?_⟩
    simp [size]
  · refine ⟨tail.ring,?_,whole,holds.suffix⟩
    have positive := limit_positive
    have nonempty : tail.ring.isEmpty = false := by
      rw [isEmpty_eq_false_iff, ← length_pos_iff]
      omega
    rw [nonempty, if_neg Bool.false_ne_true]

theorem append_holds {tail : TerminalOutputTail} (holds : Holds tail saved)
    : ∃ next, tail.append bytes = some next ∧ Holds next (saved ++ bytes) := by
  have positive := limit_positive
  have kept := holds.size
  unfold TerminalOutputTail.append
  split
  · next empty => exact ⟨tail,rfl,by simpa [isEmpty_iff.mp empty] using holds⟩
  obtain ⟨ring,made,whole,suffix⟩ := holds_ring holds
  dsimp only
  rw [made]
  split
  · next long =>
    have past : saved.length ≤ saved.length + bytes.length - limit := by omega
    have rest : saved.length + bytes.length - limit - saved.length =
        bytes.length - limit := by omega
    have last : (saved ++ bytes).drop ((saved ++ bytes).length - limit) =
        bytes.drop (bytes.length - limit) := by
      rw [length_append, drop_append, drop_eq_nil_of_le past, rest, nil_append]
    have size : (bytes.drop (bytes.length - limit)).length = limit := by
      rw [length_drop]
      omega
    have total : limit = min limit (saved ++ bytes).length := by
      rw [length_append]
      omega
    generalize bytes.drop (bytes.length - limit) = kept_bytes at last size ⊢
    rw [setAt_whole (whole.trans size.symm)]
    refine ⟨⟨kept_bytes,limit,0⟩,rfl,positive,total,.inr size,?_⟩
    rw [last]
    simp [TerminalOutputTail.unrolled]
  · next short =>
    obtain ⟨once,twice,first,second,size,moved⟩ :=
      write_unrolled whole holds.offset (Nat.not_le.mp short)
    rw [first]
    refine ⟨_,by rw [Option.bind_eq_bind, Option.bind_some, second]; rfl,
      Nat.mod_lt _ positive,?_,.inr size,?_⟩
    · simp only [length_append]
      omega
    · -- the bytes kept of before the write end the ring, and no byte of them is written over
      have length := length_unrolled (whole ▸ holds.offset.le : tail.offset ≤ ring.length)
      have start : saved.length + bytes.length - min limit (tail.size + bytes.length) ≤
          saved.length := by omega
      have shorter := (drop_suffix_drop_left saved (by omega : saved.length - tail.size ≤
          saved.length + bytes.length - min limit (tail.size + bytes.length))).trans suffix
      have left := suffix_of_suffix_length_le shorter (drop_suffix bytes.length _)
        (by rw [length_drop, length_drop, length]; omega)
      simp only [TerminalOutputTail.unrolled, moved, length_append]
      rw [drop_append_of_le_length start]
      exact suffix_append bytes left

theorem run_holds : ∀ {tail : TerminalOutputTail} {saved : Bytes},
    Holds tail saved → ∃ last, tail.run actions = some last ∧
      Holds last (appended saved actions) := by
  induction actions with
  | nil => exact fun holds => ⟨_,rfl,holds⟩
  | cons action rest ih =>
    intro tail saved holds
    cases action with
    | append bytes =>
      obtain ⟨next,added,still⟩ := append_holds holds
      obtain ⟨last,ran,ends⟩ := ih still
      exact ⟨last,by simp [TerminalOutputTail.run, added, ran],ends⟩
    | clear =>
      have cleared : Holds tail.clear [] :=
        ⟨limit_positive,rfl,holds.ring.imp (fun empty => ⟨empty.1,rfl,rfl⟩) id,by simp⟩
      exact ih cleared

theorem snapshot_of_holds {tail : TerminalOutputTail} (holds : Holds tail saved) :
    tail.snapshot = saved.drop (saved.length - min limit saved.length) := by
  rw [← holds.size]
  have kept := holds.size
  have inside := holds.offset
  rcases holds.ring with ⟨empty,size,-⟩ | whole
  · simp [TerminalOutputTail.snapshot, empty, size]
  have ends : tail.snapshot <:+ tail.unrolled ∧ tail.snapshot.length = tail.size := by
    unfold TerminalOutputTail.snapshot TerminalOutputTail.unrolled
    dsimp only
    rw [wrapped (by omega)]
    by_cases around : tail.offset < tail.size
    · have start : limit - (tail.offset + limit - tail.size) = tail.size - tail.offset := by omega
      have rest : tail.size - (tail.size - tail.offset) = tail.offset := by omega
      rw [if_pos (by omega), start, Nat.min_eq_right (Nat.sub_le _ _), rest,
        take_of_length_le (by rw [length_drop]; omega)]
      refine ⟨suffix_append _ (drop_suffix_drop_left tail.ring (by omega)),?_⟩
      simp only [length_append, length_drop, length_take]
      omega
    · have start : tail.offset + limit - tail.size - limit = tail.offset - tail.size := by omega
      have slice : (tail.ring.drop (tail.offset - tail.size)).take tail.size =
          (tail.ring.take tail.offset).drop (tail.offset - tail.size) := by
        rw [drop_take, Nat.sub_sub_self (by omega)]
      rw [if_neg (by omega), start, Nat.min_eq_left (by omega), Nat.sub_self, take_zero,
        append_nil, slice]
      refine ⟨(drop_suffix _ _).trans (List.suffix_append _ _),?_⟩
      simp only [length_drop, length_take]
      omega
  exact suffix_of_suffix_length_le ends.1 holds.suffix
    (by rw [ends.2, length_drop]; omega) |>.eq_of_length
    (by rw [ends.2, length_drop]; omega)

theorem terminal_output_tail_is_suffix (actions : List TailAction) :
    ∃ tail, ({} : TerminalOutputTail).run actions = some tail ∧
      tail.snapshot = (appended [] actions).drop
        ((appended [] actions).length - min limit (appended [] actions).length) := by
  have fresh : Holds {} [] := ⟨limit_positive,rfl,.inl ⟨rfl,rfl,rfl⟩,by simp⟩
  obtain ⟨tail,ran,holds⟩ := run_holds fresh
  exact ⟨tail,ran,snapshot_of_holds holds⟩

section Replay

/-- The inner `while`: smaller overlaps are tried until one agrees with the byte. -/
def fallBack (table : List Nat) (agrees : Nat → Option Bool) : Nat → Nat → Option Nat
  | 0, _ => none
  | fuel + 1, n => do
    if n = 0 then pure 0
    else if ← agrees n then pure n
    else fallBack table agrees fuel (← table[n - 1]?)

def grow (replay : Bytes) (table : List Nat) (agrees : Nat → Option Bool) (byte : UInt8)
    (n : Nat) : Option Nat := do
  let n ← fallBack table agrees (n + 1) n
  pure (if (← replay[n]?) == byte then n + 1 else n)

def agreesAt (replay : Bytes) (byte : UInt8) (m : Nat) : Option Bool := do
  pure ((← replay[m]?) == byte)

/-- The failure table, filled up to and including index `i`, and the last overlap. -/
def tableUpTo (replay : Bytes) : Nat → Option (List Nat × Nat)
  | 0 => some (List.replicate replay.length 0, 0)
  | i + 1 => do
    let (table, n) ← tableUpTo replay i
    let byte ← replay[i + 1]?
    let n ← grow replay table (agreesAt replay byte) byte n
    pure (table.set (i + 1) n, n)

/-- A whole match agrees with no byte: the scan goes on from its longest proper overlap. -/
def agreesBeforeEnd (replay : Bytes) (byte : UInt8) (m : Nat) : Option Bool :=
  if m = replay.length then some false else agreesAt replay byte m

def finalOverlap (previous replay : Bytes) : Option Nat := do
  let (table, _) ← tableUpTo replay (replay.length - 1)
  previous.foldlM (fun overlap byte =>
    grow replay table (agreesBeforeEnd replay byte) byte overlap) 0

structure Continuation where
  bytes : Bytes
  continuous : Bool
deriving DecidableEq

def continueReplay (previous replay : Bytes) : Option Continuation := do
  if previous.isEmpty then pure ⟨replay, true⟩
  else if replay.isEmpty then pure ⟨replay, false⟩
  else
    let overlap ← finalOverlap previous replay
    let continuous := 0 < overlap &&
      (overlap == previous.length || overlap == replay.length || 64 ≤ overlap)
    pure ⟨if continuous then replay.drop overlap else replay, continuous⟩

def Filled (p : Bytes) (table : List Nat) (m : Nat) : Prop :=
  ∀ j < m, ∃ k, table[j]? = some k ∧ Longest p (p.take (j + 1)).tail k

variable {p xs : Bytes} {c : UInt8} {table : List Nat} {agrees : Nat → Option Bool} {n : Nat}

theorem fallBack_spec (filled : Filled p table n)
    (agreed : ∀ m ≤ n, agrees m = some (p[m]? == some c)) :
    ∀ fuel m, m < fuel → m ≤ n → Overlap p xs m →
      ∃ r, fallBack table agrees fuel m = some r ∧ Overlap p xs r ∧ (r = 0 ∨ p[r]? = some c) ∧
        ∀ j ≤ m, Overlap p xs j → p[j]? = some c → j ≤ r := by
  intro fuel
  induction fuel with
  | zero => intro m less; omega
  | succ fuel ih =>
    intro m less within overlap
    rw [fallBack]
    by_cases none_left : m = 0
    · exact ⟨0,by simp [none_left],overlap_zero,.inl rfl,fun j small _ _ => by omega⟩
    by_cases same : p[m]? = some c
    · exact ⟨m,by simp [none_left, agreed m within, same],overlap,.inr same,
        fun j small _ _ => small⟩
    obtain ⟨k,stored,longest⟩ := filled (m - 1) (by omega)
    rw [Nat.sub_add_cancel (Nat.pos_of_ne_zero none_left)] at longest
    have smaller : k < m := by
      have short := overlap_length longest.overlap
      simp only [length_tail, length_take] at short
      omega
    obtain ⟨r,hit,still,stop,most⟩ :=
      ih k (by omega) (by omega) ((overlap_below overlap smaller).mpr longest.overlap)
    refine ⟨r,by simp [none_left, agreed m within, same, stored, hit],still,stop,?_⟩
    intro j small other continued
    have proper : j < m := by
      refine Nat.lt_of_le_of_ne small fun equal => same ?_
      rw [← equal, continued]
    exact most j (longest.most j ((overlap_below overlap proper).mp other)) other continued

theorem agreesAt_eq (within : m < p.length) : agreesAt p c m = some (p[m]? == some c) := by
  simp [agreesAt, getElem?_eq_getElem within]

theorem grow_spec (some_pattern : 0 < p.length) (filled : Filled p table n)
    (agreed : ∀ m ≤ n, agrees m = some (p[m]? == some c)) (longest : Longest p xs n) :
    ∃ r, grow p table agrees c n = some r ∧ Longest p (xs ++ [c]) r := by
  obtain ⟨r,hit,overlap,stop,most⟩ :=
    fallBack_spec filled agreed (n + 1) n (by omega) le_rfl longest.overlap
  have every : ∀ j, Overlap p xs j → p[j]? = some c → j ≤ r :=
    fun j other => most j (longest.most j other) other
  by_cases same : p[r]? = some c
  · exact ⟨r + 1,by simp [grow, hit, same],longest_snoc overlap same every⟩
  · obtain rfl := stop.resolve_right same
    have first := getElem?_eq_getElem some_pattern
    have other : p[0] ≠ c := fun equal => same (by rw [first, equal])
    refine ⟨0,by simp [grow, hit, first, other],longest_none fun j overlap continued => ?_⟩
    obtain rfl : j = 0 := Nat.le_zero.mp (every j overlap continued)
    exact same continued

theorem table_spec : ∀ i < p.length, ∃ table n, tableUpTo p i = some (table, n) ∧
    table.length = p.length ∧ Filled p table (i + 1) ∧ Longest p (p.take (i + 1)).tail n := by
  intro i
  induction i with
  | zero =>
    intro within
    have none_before : (p.take (0 + 1)).tail = [] := by simp [← drop_one]
    have longest : Longest p (p.take (0 + 1)).tail 0 := by
      rw [none_before]
      exact ⟨overlap_zero,fun j other => by simpa using overlap_length other⟩
    refine ⟨_,0,rfl,length_replicate,?_,longest⟩
    intro j first
    obtain rfl : j = 0 := by omega
    exact ⟨0,by simp [within],longest⟩
  | succ i ih =>
    intro within
    obtain ⟨table,n,made,whole,filled,longest⟩ := ih (by omega)
    have byte := getElem?_eq_getElem within
    have short : n ≤ i := by
      have size := overlap_length longest.overlap
      simp only [length_tail, length_take] at size
      omega
    have longer : (p.take (i + 1 + 1)).tail = (p.take (i + 1)).tail ++ [p[i + 1]] := by
      rw [take_succ_eq_append_getElem within, tail_append_of_ne_nil]
      intro empty
      have size := congrArg List.length empty
      simp only [length_take, length_nil] at size
      omega
    have agreed : ∀ m ≤ n, agreesAt p p[i + 1] m = some (p[m]? == some p[i + 1]) :=
      fun m small => agreesAt_eq (by omega)
    obtain ⟨r,grown,next⟩ :=
      grow_spec (by omega) (fun j less => filled j (by omega)) agreed longest
    rw [← longer] at next
    refine ⟨table.set (i + 1) r,r,by simp [tableUpTo, made, byte, grown],by simp [whole],?_, next⟩
    intro j less
    by_cases last : j = i + 1
    · exact ⟨r,by simp [last, whole, within],last ▸ next⟩
    · obtain ⟨k,stored,same⟩ := filled j (by omega)
      exact ⟨k,by rw [getElem?_set_ne (Ne.symm last), stored],same⟩

theorem scan_spec (some_pattern : 0 < p.length) (filled : Filled p table p.length) :
    ∀ (rest : Bytes) {xs : Bytes} {n : Nat}, Longest p xs n →
      ∃ r, rest.foldlM (fun overlap byte =>
          grow p table (agreesBeforeEnd p byte) byte overlap) n = some r ∧
        Longest p (xs ++ rest) r := by
  intro rest
  induction rest with
  | nil => exact fun longest => ⟨_,rfl,by simpa using longest⟩
  | cons byte rest ih =>
    intro xs n longest
    have within := longest.overlap.1
    have agreed : ∀ m ≤ n, agreesBeforeEnd p byte m = some (p[m]? == some byte) := by
      intro m small
      unfold agreesBeforeEnd
      split
      · next whole => simp [whole]
      · exact agreesAt_eq (by omega)
    obtain ⟨next,grown,longer⟩ :=
      grow_spec some_pattern (fun j less => filled j (by omega)) agreed longest
    obtain ⟨last,scanned,ends⟩ := ih longer
    exact ⟨last,by simp [grown, scanned],by simpa using ends⟩

theorem finalOverlap_spec (previous : Bytes) (some_replay : replay ≠ []) :
    ∃ overlap, finalOverlap previous replay = some overlap ∧ Longest replay previous overlap := by
  have positive := length_pos_iff.mpr some_replay
  obtain ⟨table,n,made,-,filled,-⟩ := table_spec (p := replay) (replay.length - 1) (by omega)
  rw [Nat.sub_add_cancel positive] at filled
  have none_read : Longest replay [] 0 := ⟨overlap_zero,fun j other => overlap_length other⟩
  obtain ⟨overlap,scanned,longest⟩ := scan_spec positive filled previous none_read
  exact ⟨overlap,by simp [finalOverlap, made, scanned],longest⟩

theorem overlap_iff : Overlap replay previous k ↔ k ≤ min previous.length replay.length ∧
      previous.drop (previous.length - k) = replay.take k := by
  constructor
  · intro overlap
    have short := overlap_length overlap
    refine ⟨le_min short overlap.1,?_⟩
    have same := suffix_iff_eq_drop.mp overlap.2
    rw [length_take, Nat.min_eq_left overlap.1] at same
    exact same.symm
  · rintro ⟨within,same⟩
    exact ⟨by omega,same ▸ drop_suffix _ _⟩

theorem continue_replay_overlap_is_maximal {previous replay : Bytes}
    (some_previous : previous ≠ []) (some_replay : replay ≠ []) :
    ∃ overlap continuation, finalOverlap previous replay = some overlap ∧
      continueReplay previous replay = some continuation ∧
      (overlap ≤ min previous.length replay.length ∧
        previous.drop (previous.length - overlap) = replay.take overlap) ∧
      (∀ k ≤ min previous.length replay.length,
        previous.drop (previous.length - k) = replay.take k → k ≤ overlap) ∧
      (continuation.continuous = true ↔ 0 < overlap ∧
        (overlap = previous.length ∨ overlap = replay.length ∨ 64 ≤ overlap)) ∧
      continuation.bytes = (if continuation.continuous then replay.drop overlap else replay) ∧
      (continuation.continuous = true → replay <:+ previous ++ continuation.bytes) := by
  obtain ⟨overlap,found,longest⟩ := finalOverlap_spec previous some_replay
  refine ⟨overlap,_,found,by
      rw [continueReplay, if_neg (by simpa using some_previous),
        if_neg (by simpa using some_replay), found]; rfl,
    overlap_iff.mp longest.overlap,
    fun k within same => longest.most k (overlap_iff.mpr ⟨within,same⟩),
    by simp [or_assoc],rfl,?_⟩
  intro continuous
  dsimp only at continuous ⊢
  rw [if_pos continuous]
  have joined := suffix_append (replay.drop overlap) longest.overlap.2
  rwa [take_append_drop] at joined

theorem replay_of_repeated_bytes_continues :
    ∃ overlap continuation, finalOverlap [1, 2, 1, 2] [1, 2, 1, 2, 3] = some overlap ∧
      continueReplay [1, 2, 1, 2] [1, 2, 1, 2, 3] = some continuation ∧
      overlap = 4 ∧ continuation = ⟨[3], true⟩ := by
  obtain ⟨overlap,⟨bytes,continuous⟩,found,answered,within,most,joins,left,-⟩ :=
    continue_replay_overlap_is_maximal (cons_ne_nil 1 [2,1,2]) (cons_ne_nil 1 [2,1,2,3])
  cases Nat.le_antisymm within.1 (most 4 (by decide) rfl)
  cases (joins.mpr (by decide) : continuous = true)
  cases (left : bytes = [3])
  exact ⟨4,_,found,answered,rfl,rfl⟩

end Replay

end TermloopContinuity
