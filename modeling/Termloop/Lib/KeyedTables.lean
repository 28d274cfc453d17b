import Mathlib.Data.List.AList
import Mathlib.Data.List.Flatten
import Mathlib.Data.List.Perm.Basic

/-!
Finite tables with one value a key, on top of association lists: entries kept by
a test, values changed in place, and what all the values of a table hold taken
together. The order of the entries never matters to a lemma; what is gathered is
known up to a permutation.
-/
namespace TermloopKeyed
open List
variable {κ β γ : Type} [DecidableEq κ]

def retain (keep : κ → β → Bool) (table : AList fun _ : κ => β) : AList fun _ : κ => β :=
  ⟨table.entries.filter fun entry => keep entry.1 entry.2,
    table.nodupKeys.sublist filter_sublist⟩

def mapValues (change : κ → β → β) (table : AList fun _ : κ => β) : AList fun _ : κ => β :=
  ⟨table.entries.map fun entry => ⟨entry.1, change entry.1 entry.2⟩,
    List.NodupKeys.map₂ change table.entries table.nodupKeys⟩

/-- Change the value of one key, if the table has it. -/
def update (key : κ) (change : β → β) (table : AList fun _ : κ => β) : AList fun _ : κ => β :=
  match table.lookup key with
  | none => table
  | some value => table.insert key (change value)

/-- What the values hold, all together. -/
def gather (view : κ → β → List γ) (table : AList fun _ : κ => β) : List γ :=
  table.entries.flatMap fun entry => view entry.1 entry.2

theorem lookup_eq_some_iff {table : AList fun _ : κ => β} {key : κ} {value : β} :
    table.lookup key = some value ↔ (⟨key, value⟩ : Sigma fun _ : κ => β) ∈ table.entries :=
  mem_dlookup_iff table.nodupKeys

section Changes
variable {table : AList fun _ : κ => β} {key other : κ} {value found : β}

theorem lookup_insert_if :
    (table.insert key value).lookup other = if other = key then some value else table.lookup other
      := by
  split
  next same => rw [same, AList.lookup_insert]
  next apart => exact AList.lookup_insert_ne apart

theorem lookup_insert_cases (present : (table.insert key value).lookup other = some found) :
    other = key ∧ found = value ∨ other ≠ key ∧ table.lookup other = some found := by
  rw [lookup_insert_if] at present
  split at present
  next same => exact .inl ⟨same,(Option.some.inj present).symm⟩
  next apart => exact .inr ⟨apart,present⟩

theorem lookup_erase_some (present : (table.erase key).lookup other = some found) :
    other ≠ key ∧ table.lookup other = some found := by
  by_cases same : other = key
  · rw [same, AList.lookup_erase] at present
    cases present
  · rw [AList.lookup_erase_ne same] at present
    exact ⟨same,present⟩

end Changes

theorem lookup_retain (keep : κ → β → Bool) (table : AList fun _ : κ => β) (key : κ) :
    (retain keep table).lookup key = (table.lookup key).filter (keep key) := by
  apply Option.ext
  intro value
  rw [lookup_eq_some_iff, Option.filter_eq_some_iff, lookup_eq_some_iff]
  exact mem_filter

theorem lookup_mapValues (change : κ → β → β) (table : AList fun _ : κ => β) (key : κ) :
    (mapValues change table).lookup key = (table.lookup key).map (change key) :=
  dlookup_map₂ key

theorem lookup_update (key other : κ) (change : β → β) (table : AList fun _ : κ => β) :
    (update key change table).lookup other =
      if other = key then (table.lookup other).map change else table.lookup other := by
  rw [update]
  split
  next absent =>
    split
    next same => rw [same, absent, Option.map_none]
    next => rfl
  next value found =>
    rw [lookup_insert_if]
    split
    next same => rw [same, found, Option.map_some]
    next => rfl

theorem mem_gather {view : κ → β → List γ} {table : AList fun _ : κ => β} {item : γ} :
    item ∈ gather view table ↔ ∃ key value, table.lookup key = some value ∧
      item ∈ view key value := by
  simp only [gather, mem_flatMap, lookup_eq_some_iff]
  constructor
  · rintro ⟨⟨key,value⟩,listed,here⟩
    exact ⟨key,value,listed,here⟩
  · rintro ⟨key,value,listed,here⟩
    exact ⟨⟨key,value⟩,listed,here⟩

theorem gather_perm {view : κ → β → List γ} {table : AList fun _ : κ => β} {key : κ} {value : β}
    (found : table.lookup key = some value) :
    (gather view table).Perm (view key value ++ gather view (table.erase key)) := by
  obtain ⟨kept,before,after,absent,shape,erased⟩ :=
    exists_of_kerase (mem_keys_of_mem (lookup_eq_some_iff.mp found))
  have same : kept = value := by
    have here : (⟨key,kept⟩ : Sigma fun _ : κ => β) ∈ table.entries := by
      rw [shape]
      exact mem_append_right _ mem_cons_self
    exact Option.some.inj ((lookup_eq_some_iff.mpr here).symm.trans found)
  have rest : (table.erase key).entries = before ++ after := erased
  rw [gather, gather, shape, rest, same, flatMap_append, flatMap_cons, flatMap_append]
  exact perm_append_comm_assoc _ _ _

theorem gather_insert (view : κ → β → List γ) (table : AList fun _ : κ => β) (key : κ) (value : β) :
    gather view (table.insert key value) = view key value ++ gather view (table.erase key) := by
  rw [gather, AList.entries_insert, flatMap_cons]
  rfl

theorem erase_of_absent {table : AList fun _ : κ => β} {key : κ}
    (absent : table.lookup key = none) : table.erase key = table :=
  AList.ext (kerase_of_notMem_keys (AList.lookup_eq_none.mp absent))

theorem gather_erase_sublist (view : κ → β → List γ) (table : AList fun _ : κ => β) (key : κ) :
    (gather view (table.erase key)).Sublist (gather view table) :=
  (kerase_sublist key table.entries).flatMap _

omit [DecidableEq κ] in
theorem gather_retain_sublist (view : κ → β → List γ) (keep : κ → β → Bool)
    (table : AList fun _ : κ => β) : (gather view (retain keep table)).Sublist (gather view table)
      :=
  filter_sublist.flatMap _

omit [DecidableEq κ] in
theorem gather_mapValues_sublist (view : κ → β → List γ) (change : κ → β → β)
    (shrinks : ∀ key value, (view key (change key value)).Sublist (view key value))
    (table : AList fun _ : κ => β) :
    (gather view (mapValues change table)).Sublist (gather view table) := by
  simp only [gather, mapValues, flatMap_map]
  exact List.Sublist.flatMap_right _ fun entry _ => shrinks entry.1 entry.2

theorem gather_update_subperm {view : κ → β → List γ} {change : β → β} {key : κ}
    (shrinks : ∀ value, (view key (change value)).Sublist (view key value))
    (table : AList fun _ : κ => β) :
    (gather view (update key change table)).Subperm (gather view table) := by
  rw [update]
  split
  next => exact List.Subperm.refl _
  next value found =>
    rw [gather_insert]
    exact ((shrinks value).append_right _).subperm.trans (gather_perm found).symm.subperm

end TermloopKeyed
