import Mathlib.Data.List.Basic
import Mathlib.Data.List.Pairwise

/-!
Records kept in a list and addressed by a key. A lookup takes the first record
that answers, an update rewrites that record in place, and a consistency check
walks the list looking at each record together with the ones behind it. Keys
need not be unique unless a lemma says so.
-/
namespace TermloopRecordLists
open List
variable {α β κ : Type}

theorem both_eq [BEq α] [LawfulBEq α] [BEq β] [LawfulBEq β] {a b : α} {c d : β}
    (same : a == b && c == d) : a = b ∧ c = d := by
  simpa using same

/-- What reads only a view of the records is the same for records of the same view. -/
theorem eq_of_views {view : α → α} {xs ys : List α} (same : xs.map view = ys.map view)
    (read : List α → β) (reads : ∀ l, read (l.map view) = read l) : read xs = read ys := by
  rw [← reads, same, reads]

/-- Rewrite the first record that is wanted; without one the list stays. -/
def updateFirst (wanted : α → Bool) (change : α → α) : List α → List α
  | [] => []
  | r :: rest => if wanted r then change r :: rest else r :: updateFirst wanted change rest

variable {wanted : α → Bool} {change : α → α} {l : List α} {x y : α} {key : α → κ}

theorem map_updateFirst {view : α → β} (same : ∀ r, view (change r) = view r) (l : List α) :
    (updateFirst wanted change l).map view = l.map view := by
  induction l with
  | nil => rfl
  | cons r rest ih =>
    rw [updateFirst]
    split
    · simp [same]
    · simp [ih]

theorem perm_updateFirst (found : l.find? wanted = some x) :
    (updateFirst wanted change l).Perm (change x :: l.eraseP wanted) := by
  induction l with
  | nil => cases found
  | cons r rest ih =>
    by_cases hit : wanted r
    · rw [find?_cons_of_pos hit] at found
      cases found
      rw [updateFirst, if_pos hit, eraseP_cons_of_pos hit]
    · rw [find?_cons_of_neg hit] at found
      rw [updateFirst, if_neg hit, eraseP_cons_of_neg hit]
      exact ((ih found).cons r).trans (List.Perm.swap (change x) r _)

theorem perm_cons_eraseP (found : l.find? wanted = some x) : l.Perm (x :: l.eraseP wanted) := by
  have same := @map_updateFirst α α wanted id id (fun _ => rfl) l
  rw [map_id, map_id] at same
  have moved : (updateFirst wanted id l).Perm _ := perm_updateFirst found
  rwa [same] at moved

theorem changed_mem_updateFirst (found : l.find? wanted = some x) :
    change x ∈ updateFirst wanted change l :=
  (perm_updateFirst found).mem_iff.mpr mem_cons_self

theorem updateFirst_of_none (missing : l.find? wanted = none) : updateFirst wanted change l = l := by
  induction l with
  | nil => rfl
  | cons r rest ih =>
    have misses := find?_eq_none.mp missing
    rw [updateFirst, if_neg (misses r mem_cons_self),
      ih (find?_eq_none.mpr fun s later => misses s (mem_cons_of_mem r later))]

theorem mem_updateFirst (h : y ∈ updateFirst wanted change l) :
    y ∈ l ∨ ∃ x, l.find? wanted = some x ∧ y = change x := by
  cases found : l.find? wanted with
  | none => exact .inl (updateFirst_of_none found ▸ h)
  | some x =>
    rcases mem_cons.mp ((perm_updateFirst found).subset h) with new | old
    · exact .inr ⟨x,rfl,new⟩
    · exact .inl (mem_of_mem_eraseP old)

theorem mem_updateFirst_of_mem
    (h : x ∈ l) : x ∈ updateFirst wanted change l ∨ l.find? wanted = some x := by
  cases found : l.find? wanted with
  | none => exact .inl ((updateFirst_of_none found).symm ▸ h)
  | some first =>
    rcases mem_cons.mp ((perm_cons_eraseP found).subset h) with same | other
    · exact .inr (congrArg some same.symm)
    · exact .inl ((perm_updateFirst found).mem_iff.mpr (mem_cons_of_mem _ other))

theorem length_updateFirst (wanted : α → Bool) (change : α → α) (l : List α) :
    (updateFirst wanted change l).length = l.length := by
  simpa using congrArg length (@map_updateFirst α Unit wanted change (fun _ => ()) (fun _ => rfl) l)

theorem pairwise_updateFirst {R : α → α → Prop} (pairs : l.Pairwise R)
    (left : ∀ x y, l.find? wanted = some x → y ∈ l → R y x → R y (change x))
    (right : ∀ x y, l.find? wanted = some x → y ∈ l → R x y → R (change x) y) :
    (updateFirst wanted change l).Pairwise R := by
  induction l with
  | nil => exact .nil
  | cons r rest ih =>
    obtain ⟨first,others⟩ := pairwise_cons.mp pairs
    by_cases hit : wanted r
    · rw [updateFirst, if_pos hit]
      rw [find?_cons_of_pos hit] at right
      refine pairwise_cons.mpr ⟨fun y later => ?_,others⟩
      exact right r y rfl (mem_cons_of_mem r later) (first y later)
    · rw [updateFirst, if_neg hit]
      rw [find?_cons_of_neg hit] at left right
      refine pairwise_cons.mpr ⟨fun y later => ?_,ih others ?_ ?_⟩
      · rcases mem_updateFirst later with old | ⟨x,found,new⟩
        · exact first y old
        · rw [new]
          have here := mem_of_find?_eq_some found
          exact left x r found mem_cons_self (first x here)
      · exact fun x y found later => left x y found (mem_cons_of_mem r later)
      · exact fun x y found later => right x y found (mem_cons_of_mem r later)

theorem eq_of_key (distinct : l.Pairwise fun a b => key b ≠ key a) (hx : x ∈ l) (hy : y ∈ l)
    (same : key x = key y) : x = y := by
  have : Std.Symm fun a b : α => key b ≠ key a := ⟨fun _ _ => Ne.symm⟩
  by_contra apart
  exact distinct.forall hx hy apart same.symm

/-- When no two records are wanted, taking out the first wanted one takes out all. -/
theorem eraseP_eq_filter (single : l.Pairwise fun a b => ¬ (wanted a ∧ wanted b)) :
    l.eraseP wanted = l.filter fun r => !wanted r := by
  induction l with
  | nil => rfl
  | cons r rest ih =>
    rw [pairwise_cons] at single
    by_cases hit : wanted r
    · have keep : rest.filter (fun r => !wanted r) = rest := by
        apply filter_eq_self.mpr
        intro s present
        have other : ¬ wanted s := fun same => single.1 s present ⟨hit,same⟩
        simpa using other
      simp [hit, keep]
    · simp [hit, ih single.2]

/-- Put a record in the place of the first one with its key, or behind the others. -/
def upsert [BEq κ] (key : α → κ) (new : α) : List α → List α
  | [] => [new]
  | r :: rest => if key r == key new then new :: rest else r :: upsert key new rest

theorem upsert_eq [BEq κ] (key : α → κ) (new : α) (l : List α) :
    upsert key new l = if l.any fun r => key r == key new then
      updateFirst (fun r => key r == key new) (fun _ => new) l else l ++ [new] := by
  induction l with
  | nil => rfl
  | cons r rest ih =>
    rw [upsert, ih, updateFirst, any_cons]
    by_cases mine : (key r == key new)
    · rw [mine, Bool.true_or, if_pos rfl, if_pos rfl, if_pos rfl]
    · rw [eq_false_of_ne_true mine, Bool.false_or, if_neg Bool.false_ne_true,
        if_neg Bool.false_ne_true]
      split <;> rfl

section Keys
variable [BEq κ] [LawfulBEq κ]

theorem find?_upsert [DecidableEq κ] (key : α → κ) (new : α) (k : κ) (l : List α) :
    (upsert key new l).find? (fun r => key r == k) =
      if k = key new then some new else l.find? fun r => key r == k := by
  induction l with
  | nil => grind [upsert]
  | cons r rest ih => grind [upsert]

theorem mem_upsert {new x : α} (distinct : l.Pairwise fun a b => key b ≠ key a) :
    x ∈ upsert key new l ↔ x = new ∨ x ∈ l ∧ key x ≠ key new := by
  induction l with
  | nil => simp [upsert]
  | cons r rest ih =>
    obtain ⟨first,others⟩ := pairwise_cons.mp distinct
    by_cases mine : key r = key new
    · have apart : ∀ s ∈ rest, key s ≠ key new := fun s later => mine ▸ first s later
      simp only [upsert, mine, beq_self_eq_true, if_true, mem_cons]
      grind
    · simp only [upsert, beq_iff_eq, mine, if_false, mem_cons, ih others]
      grind

theorem upsert_distinct {new : α} (distinct : l.Pairwise fun a b => key b ≠ key a) :
    (upsert key new l).Pairwise fun a b => key b ≠ key a := by
  induction l with
  | nil => exact pairwise_singleton _ _
  | cons r rest ih =>
    obtain ⟨first,others⟩ := pairwise_cons.mp distinct
    rw [upsert]
    split
    · next hit =>
      have mine := beq_iff_eq.mp hit
      exact pairwise_cons.mpr ⟨fun s later => mine ▸ first s later,others⟩
    · next miss =>
      refine pairwise_cons.mpr ⟨fun s later => ?_,ih others⟩
      rcases (mem_upsert others).mp later with rfl | ⟨old,-⟩
      · exact fun same => miss (beq_iff_eq.mpr same.symm)
      · exact first s old

theorem find?_updateFirst [DecidableEq κ]
    (keeps : ∀ r, key (change r) = key r) (j k : κ) (l : List α) :
    (updateFirst (fun r => key r == j) change l).find? (fun r => key r == k) =
      if k = j then (l.find? fun r => key r == k).map change
      else l.find? fun r => key r == k := by
  induction l with
  | nil => split <;> rfl
  | cons r rest ih =>
    by_cases hit : key r = j
    · have head : (key r == j) := by simpa using hit
      rw [updateFirst, if_pos head]
      by_cases same : k = j
      · simp [keeps, hit, same]
      · have miss : ¬ j = k := fun h => same h.symm
        simp [keeps, hit, same, miss]
    · have head : ¬ (key r == j) := by simpa using hit
      rw [updateFirst, if_neg head]
      by_cases same : k = j
      · simp only [same, if_true] at ih ⊢
        simp [hit, ih]
      · simp only [same, if_false] at ih ⊢
        simp only [find?_cons, ih]

theorem mem_updateFirst_key {k : κ} (distinct : l.Pairwise fun a b => key b ≠ key a)
    (h : y ∈ updateFirst (fun r => key r == k) change l) :
    (y ∈ l ∧ key y ≠ k) ∨ ∃ x, (l.find? fun r => key r == k) = some x ∧ y = change x := by
  cases found : l.find? fun r => key r == k with
  | none =>
    rw [updateFirst_of_none found] at h
    exact .inl ⟨h,fun same => find?_eq_none.mp found y h (beq_iff_eq.mpr same)⟩
  | some x =>
    rcases mem_cons.mp ((perm_updateFirst found).subset h) with new | old
    · exact .inr ⟨x,rfl,new⟩
    · rw [eraseP_eq_filter (distinct.imp fun apart both => apart
        ((beq_iff_eq.mp both.2).trans (beq_iff_eq.mp both.1).symm))] at old
      obtain ⟨kept,other⟩ := mem_filter.mp old
      exact .inl ⟨kept,by simpa using other⟩

theorem find?_filter_key {keep : κ → Bool} (k : κ) (l : List α) :
    (l.filter fun r => keep (key r)).find? (fun r => key r == k) =
      if keep k then l.find? fun r => key r == k else none := by
  induction l with
  | nil => split <;> rfl
  | cons r rest ih =>
    by_cases mine : key r = k
    · by_cases kept : keep k
      · simp [mine, kept]
      · rw [filter_cons, mine, if_neg kept, ih, if_neg kept, if_neg kept]
    · have other : (key r == k) = false := by simpa using mine
      by_cases kept : keep (key r)
      · rw [filter_cons, if_pos kept, find?_cons, find?_cons, other, ih]
      · rw [filter_cons, if_neg kept, find?_cons, other, ih]

/-- Records changed or dropped one by one, where keys are unique. -/
theorem find?_filterMap_key {change : α → Option α}
    (keeps : ∀ r s, change r = some s → key s = key r) (k : κ)
    (distinct : l.Pairwise fun a b => key b ≠ key a) :
    (l.filterMap change).find? (fun r => key r == k) =
      (l.find? fun r => key r == k).bind change := by
  induction l with
  | nil => rfl
  | cons r rest ih =>
    obtain ⟨first,others⟩ := pairwise_cons.mp distinct
    by_cases mine : key r = k
    · have hit : (key r == k) := by simpa using mine
      have alone : (rest.find? fun r => key r == k) = none := by
        apply find?_eq_none.mpr
        intro s later same
        exact first s later ((beq_iff_eq.mp same).trans mine.symm)
      simp only [find?_cons, hit, Option.bind_some]
      cases changed : change r with
      | none => rw [filterMap_cons_none changed, ih others, alone, Option.bind_none]
      | some s =>
        have same : (key s == k) := by simpa using (keeps r s changed).trans mine
        simp only [filterMap_cons_some changed, find?_cons, same]
    · have miss : (key r == k) = false := by simpa using mine
      simp only [find?_cons, miss]
      rw [← ih others]
      cases changed : change r with
      | none => rw [filterMap_cons_none changed]
      | some s =>
        have same : (key s == k) = false := by rwa [keeps r s changed]
        simp only [filterMap_cons_some changed, find?_cons, same]

theorem filter_dropped {k other : κ} (apart : other ≠ k) (l : List α) :
    (l.filter fun r => key r != k).filter (fun r => key r == other) =
      l.filter fun r => key r == other := by
  rw [filter_filter]
  apply filter_congr
  intro r _
  by_cases same : key r = other
  · simp [same, apart]
  · simp [same]

theorem filter_replaced {k other : κ} (apart : other ≠ k) {r : α} (own : key r = k) (l : List α) :
    ((l.filter fun r => key r != k) ++ [r]).filter (fun r => key r == other) =
      l.filter fun r => key r == other := by
  have miss : (key r == other) = false := by
    rw [beq_eq_false_iff_ne, own]
    exact apart.symm
  rw [filter_append, filter_dropped apart, filter_singleton, miss]
  simp

theorem filter_updated {keep : α → Bool}
    (drops : ∀ r, wanted r → keep r = false ∧ keep (change r) = false) (l : List α) :
    (updateFirst wanted change l).filter keep = l.filter keep := by
  induction l with
  | nil => rfl
  | cons r rest ih =>
    rw [updateFirst]
    split
    · rename_i hit
      simp [drops r hit]
    · rw [filter_cons, filter_cons, ih]

theorem filter_updateFirst {k other : κ}
    (keeps : ∀ r, key (change r) = key r) (apart : other ≠ k) (l : List α) :
    (updateFirst (fun r => key r == k) change l).filter (fun r => key r == other) =
      l.filter fun r => key r == other := by
  refine filter_updated (fun r hit => ?_) l
  have miss : (key r == other) = false := by
    rw [beq_eq_false_iff_ne, beq_iff_eq.mp hit]
    exact apart.symm
  exact ⟨miss,keeps r ▸ miss⟩

theorem filter_ne_updateFirst (keeps : ∀ r, key (change r) = key r) (k : κ) (l : List α) :
    (updateFirst (fun r => key r == k) change l).filter (fun r => key r != k) =
      l.filter fun r => key r != k :=
  filter_updated (fun r hit => by simp [keeps, beq_iff_eq.mp hit]) l

end Keys

theorem find?_eq_some_of_only (present : x ∈ l)
    (hit : wanted x) (only : ∀ y ∈ l, wanted y → y = x) :
    l.find? wanted = some x := by
  cases found : l.find? wanted with
  | none => exact absurd hit (find?_eq_none.mp found x present)
  | some y => rw [only y (mem_of_find?_eq_some found) (find?_some found)]

theorem find?_eraseP {wanted other : α → Bool} (apart : ∀ r, other r → ¬ wanted r) (l : List α) :
    (l.eraseP wanted).find? other = l.find? other := by
  induction l with
  | nil => rfl
  | cons r rest ih =>
    by_cases hit : wanted r
    · have miss : ¬ other r := fun both => apart r both hit
      rw [eraseP_cons_of_pos hit, find?_cons_of_neg miss]
    · rw [eraseP_cons_of_neg hit, find?_cons, find?_cons, ih]

theorem eraseIdx_eq_filter [BEq κ] [LawfulBEq κ] {i : Nat}
    (distinct : l.Pairwise fun a b => key b ≠ key a) (here : l[i]? = some x) :
    l.eraseIdx i = l.filter fun r => key r != key x := by
  induction l generalizing i with
  | nil => rfl
  | cons r rest ih =>
    obtain ⟨first,others⟩ := pairwise_cons.mp distinct
    cases i with
    | zero =>
      cases here
      have keep : rest.filter (fun s => key s != key x) = rest := by
        apply filter_eq_self.mpr
        intro s later
        simpa using first s later
      simp [keep]
    | succ i =>
      have apart : key x ≠ key r := first x (mem_of_getElem? here)
      rw [eraseIdx_cons_succ, ih others here, filter_cons_of_pos]
      simpa using apart.symm

theorem head_mergeSort_ne_last {le : α → α → Bool} (trans : ∀ a b c, le a b → le b c → le a c)
    (total : ∀ a b, (le a b || le b a)) (distinct : (l ++ [y]).Nodup) (older : x ∈ l)
    (below : le x y) : ∀ first rest, (l ++ [y]).mergeSort le = first :: rest → first ≠ y := by
  rintro first rest sorted rfl
  have pair := pair_sublist_mergeSort trans total below
    ((singleton_sublist.mpr older).append (.refl [first]))
  have apart := (mergeSort_perm (l ++ [first]) le).nodup_iff.mpr distinct
  rw [sorted] at pair apart
  cases pair with
  | cons _ behind => exact (nodup_cons.mp apart).1 (behind.subset (by simp))
  | cons_cons _ behind => exact (nodup_append.mp distinct).2.2 x older x (by simp) rfl

/-- Some record fails a check that may also look at the records behind it. -/
def anyWithLater (bad : α → List α → Bool) : List α → Bool
  | [] => false
  | r :: rest => bad r rest || anyWithLater bad rest

theorem anyWithLater_map (bad : β → List β → Bool) (view : α → β) (l : List α) :
    anyWithLater bad (l.map view) =
      anyWithLater (fun r later => bad (view r) (later.map view)) l := by
  induction l with
  | nil => rfl
  | cons r rest ih => rw [map_cons, anyWithLater, anyWithLater, ih]

theorem anyWithLater_eq_false_of_imp {bad worse : α → List α → Bool}
    (implied : ∀ r later, bad r later → worse r later)
    (fine : anyWithLater worse l = false) : anyWithLater bad l = false := by
  induction l with
  | nil => rfl
  | cons r rest ih =>
    rw [anyWithLater, Bool.or_eq_false_iff] at fine ⊢
    refine ⟨?_,ih fine.2⟩
    by_contra failed
    rw [Bool.not_eq_false] at failed
    rw [implied r rest failed] at fine
    cases fine.1

theorem anyWithLater_eq_false {bad : α → List α → Bool} {Alone : α → Prop} {Apart : α → α → Prop}
    (split : ∀ r later, bad r later = false ↔ Alone r ∧ ∀ s ∈ later, Apart r s) (l : List α) :
    anyWithLater bad l = false ↔ (∀ r ∈ l, Alone r) ∧ l.Pairwise Apart := by
  induction l with
  | nil => simp [anyWithLater]
  | cons r rest ih =>
    simp only [anyWithLater, Bool.or_eq_false_iff, split, ih, mem_cons, forall_eq_or_imp,
      pairwise_cons]
    tauto

/-- The first record that no later one comes before, in one pass. -/
def firstLeast (before : α → α → Bool) (l : List α) : Option α :=
  l.foldl (fun best r =>
    match best with
    | none => some r
    | some least => if before r least then some r else some least) none

theorem mem_of_firstLeast {before : α → α → Bool} (least : firstLeast before l = some x) : x ∈ l:= by
  suffices keeps : ∀ (l : List α) (best : Option α) (x : α), l.foldl (fun best r =>
        match best with
        | none => some r
        | some least => if before r least then some r else some least) best = some x →
      best = some x ∨ x ∈ l from (keeps l none x least).resolve_left nofun
  intro l
  induction l with
  | nil => exact fun best x done => .inl done
  | cons r rest ih =>
    intro best x done
    rw [foldl_cons] at done
    rcases ih _ x done with now | later
    · cases best with
      | none =>
        cases now
        exact .inr mem_cons_self
      | some least =>
        dsimp only at now
        split at now
        · cases now
          exact .inr mem_cons_self
        · exact .inl now
    · exact .inr (mem_cons_of_mem r later)

end TermloopRecordLists
