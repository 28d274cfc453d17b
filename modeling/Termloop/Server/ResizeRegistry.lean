import Termloop.Lib.KeyedTables
import Termloop.Lib.Runs

/-!
Which connection may resize a Session, and what the connections are told about it. An
operation changes the table of owners under a lock and tells everyone afterwards,
without the lock; so the order in which changes are announced is not the order in which
they were made.
-/
namespace TermloopResize
open TermloopKeyed TermloopRuns List

structure ResizeOwnershipChange where
  sessionId : String
  owner : Option Nat

abbrev Owners : Type := AList fun _ : String => Nat

/-- The table after an operation has held the lock, and what it has to announce then. -/
structure Update where
  owners : Owners
  changes : List ResizeOwnershipChange

variable (owners : Owners) (sessionId : String) (connectionId : Nat)

def claimIfUnowned : Bool × Update :=
  match owners.lookup sessionId with
  | some _ => (false, ⟨owners, []⟩)
  | none => (true, ⟨owners.insert sessionId connectionId, [⟨sessionId, some connectionId⟩]⟩)

def focus : Update :=
  { owners := owners.insert sessionId connectionId
    changes :=
      if owners.lookup sessionId = some connectionId then []
      else [⟨sessionId, some connectionId⟩] }

def releaseConnection : Update :=
  { owners := retain (fun _ owner => owner != connectionId) owners
    changes := (retain (fun _ owner => owner == connectionId) owners).keys.map
      fun sessionId => ⟨sessionId, none⟩ }

def releaseSession : Update :=
  if owners.lookup sessionId = some connectionId then
    ⟨owners.erase sessionId, [⟨sessionId, none⟩]⟩
  else ⟨owners, []⟩

inductive Operation where
  | claim (sessionId : String) (connectionId : Nat)
  | focus (sessionId : String) (connectionId : Nat)
  | releaseSession (sessionId : String) (connectionId : Nat)
  | releaseConnection (connectionId : Nat)

def Operation.update (owners : Owners) : Operation → Update
  | .claim sessionId connectionId => (claimIfUnowned owners sessionId connectionId).2
  | .focus sessionId connectionId => TermloopResize.focus owners sessionId connectionId
  | .releaseSession sessionId connectionId =>
    TermloopResize.releaseSession owners sessionId connectionId
  | .releaseConnection connectionId => TermloopResize.releaseConnection owners connectionId

structure Registry where
  owners : Owners
  /-- What each operation that has left the lock still has to announce, in its order. -/
  unsent : List (List ResizeOwnershipChange)
  sent : List ResizeOwnershipChange

namespace Registry

def empty : Registry := ⟨∅, [], []⟩

def announced (registry : Registry) (sessionId : String) : Option Nat :=
  (registry.sent.reverse.find? (·.sessionId == sessionId)).bind (·.owner)

def waiting (registry : Registry) (sessionId : String) : List ResizeOwnershipChange :=
  registry.unsent.flatten.filter (·.sessionId == sessionId)

end Registry

inductive Action where
  | lock (operation : Operation)
  | send (index : Nat)

/-- Owners have no order, so a released connection announces its Sessions in any order. -/
inductive Step : Registry → Action → Registry → Prop where
  | lock {registry : Registry} {operation : Operation} {changes : List ResizeOwnershipChange}
      (order : changes.Perm (operation.update registry.owners).changes) :
      Step registry (.lock operation)
        { registry with
          owners := (operation.update registry.owners).owners
          unsent := registry.unsent ++ [changes] }
  | send {registry : Registry} {index : Nat} {change : ResizeOwnershipChange}
      {rest : List ResizeOwnershipChange}
      (next : registry.unsent[index]? = some (change :: rest)) :
      Step registry (.send index)
        { registry with
          unsent := registry.unsent.set index rest, sent := registry.sent ++ [change] }

section Updates
variable {owners : Owners}

theorem filter_keys (table : Owners) (sid : String) : table.keys.filter (fun key => key == sid) =
      if (table.lookup sid).isSome then [sid] else [] := by
  rw [filter_beq]
  split
  next hit =>
    rw [count_eq_one_of_mem table.keys_nodup (AList.lookup_isSome.mp hit)]
    rfl
  next absent =>
    have missing : sid ∉ table.keys := fun here => absent (AList.lookup_isSome.mpr here)
    rw [count_eq_zero_of_not_mem missing]
    rfl

theorem update_changes (op : Operation) (owners : Owners) (sid : String) :
    ((op.update owners).changes.filter (·.sessionId == sid) = [] ∧
      (op.update owners).owners.lookup sid = owners.lookup sid) ∨
    (op.update owners).changes.filter (·.sessionId == sid) =
      [⟨sid, (op.update owners).owners.lookup sid⟩] := by
  cases op with
  | claim claimed connectionId =>
    simp only [Operation.update, claimIfUnowned]
    cases hit : owners.lookup claimed with
    | some owner => exact .inl ⟨rfl,rfl⟩
    | none =>
      by_cases same : sid = claimed
      · subst same
        exact .inr (by simp)
      · exact .inl ⟨by simp [Ne.symm same],AList.lookup_insert_ne same⟩
  | focus focused connectionId =>
    simp only [Operation.update, focus]
    by_cases same : sid = focused
    · subst same
      by_cases owned : owners.lookup sid = some connectionId
      · exact .inl ⟨by simp [owned],by simp [owned]⟩
      · exact .inr (by simp [owned])
    · refine .inl ⟨?_,AList.lookup_insert_ne same⟩
      split
      · rfl
      · simp [Ne.symm same]
  | releaseSession released connectionId =>
    simp only [Operation.update, releaseSession]
    split
    next owned =>
      by_cases same : sid = released
      · subst same
        exact .inr (by simp)
      · exact .inl ⟨by simp [Ne.symm same],AList.lookup_erase_ne same⟩
    next => exact .inl ⟨rfl,rfl⟩
  | releaseConnection connectionId =>
    have announced : (Operation.update owners (.releaseConnection connectionId)).changes.filter
        (·.sessionId == sid) = ((retain (fun _ owner => owner == connectionId) owners).keys.filter
            (fun key => key == sid)).map fun key => ⟨key,none⟩ := filter_map
    rw [announced, filter_keys, lookup_retain]
    simp only [Operation.update, releaseConnection, lookup_retain]
    cases hit : owners.lookup sid with
    | none => exact .inl ⟨rfl,rfl⟩
    | some owner =>
      by_cases mine : owner = connectionId
      · exact .inr (by simp [mine, Option.filter])
      · exact .inl ⟨by simp [mine],by simp [mine]⟩

end Updates
theorem flatten_set_perm {unsent : List (List ResizeOwnershipChange)}
    (next : unsent[index]? = some (change :: rest)) :
    unsent.flatten.Perm (change :: (unsent.set index rest).flatten) := by
  induction unsent generalizing index with
  | nil => cases next
  | cons first others ih =>
    cases index with
    | zero =>
      cases next
      exact .refl _
    | succ index =>
      have inner := ih (getElem?_cons_succ.symm.trans next)
      rw [set_cons_succ, flatten_cons, flatten_cons]
      exact (inner.append_left first).trans perm_middle

theorem announced_append (reg : Registry) (change : ResizeOwnershipChange)
    (unsent : List (List ResizeOwnershipChange)) (sid : String) :
    Registry.announced ⟨reg.owners, unsent, reg.sent ++ [change]⟩ sid =
      if change.sessionId = sid then change.owner else reg.announced sid := by
  rw [Registry.announced, reverse_append, reverse_singleton, singleton_append]
  by_cases same : change.sessionId = sid
  · simp [same]
  · rw [find?_cons_of_neg (by simpa using same), if_neg same]
    rfl

/-- Each Session's owner is announced, or one announcement of it is on its way. -/
def Converging (registry : Registry) : Prop :=
  ∀ sessionId,
    (registry.waiting sessionId = [] ∧
      registry.announced sessionId = registry.owners.lookup sessionId) ∨
    registry.waiting sessionId = [⟨sessionId, registry.owners.lookup sessionId⟩]

/-- No owner changes while an earlier change of the Session is to be announced. -/
def InTurn (registry : Registry) : Action → Prop
  | .lock operation => ∀ change ∈ (operation.update registry.owners).changes,
      registry.waiting change.sessionId = []
  | .send _ => True

theorem lock_converges (converging : Converging reg) (inTurn : InTurn reg (.lock op))
    (order : changes.Perm (op.update reg.owners).changes) :
    Converging { reg with
      owners := (op.update reg.owners).owners
      unsent := reg.unsent ++ [changes] } := by
  intro sid
  have mine : changes.filter (·.sessionId == sid) =
      (op.update reg.owners).changes.filter (·.sessionId == sid) := by
    have sorted := order.filter (·.sessionId == sid)
    rcases update_changes op reg.owners sid with ⟨none,-⟩ | one
    · rw [none] at sorted ⊢
      exact sorted.eq_nil
    · rw [one] at sorted ⊢
      exact perm_singleton.mp sorted
  have grown : Registry.waiting { reg with
        owners := (op.update reg.owners).owners
        unsent := reg.unsent ++ [changes] } sid =
      reg.waiting sid ++ (op.update reg.owners).changes.filter (·.sessionId == sid) := by
    simp only [Registry.waiting, flatten_append, flatten_cons, flatten_nil,
      append_nil, filter_append, mine]
  rw [grown]
  rcases update_changes op reg.owners sid with ⟨none,same⟩ | one
  · rw [none, append_nil]
    simp only [same]
    exact converging sid
  · have mem : (⟨sid,(op.update reg.owners).owners.lookup sid⟩ :
        ResizeOwnershipChange) ∈ (op.update reg.owners).changes := by
      apply mem_of_mem_filter (p := (·.sessionId == sid))
      rw [one]
      exact mem_singleton_self _
    exact .inr (by rw [inTurn _ mem, one, nil_append])

theorem send_converges {reg : Registry} (converging : Converging reg)
    (next : reg.unsent[index]? = some (change :: rest)) :
    Converging { reg with
      unsent := reg.unsent.set index rest
      sent := reg.sent ++ [change] } := by
  intro sid
  have fewer : (reg.waiting sid).Perm ((change :: (reg.unsent.set index rest).flatten).filter
        (·.sessionId == sid)) := (flatten_set_perm next).filter _
  rw [announced_append]
  by_cases same : change.sessionId = sid
  · rw [filter_cons_of_pos (by simpa using same)] at fewer
    rcases converging sid with ⟨none,-⟩ | one
    · rw [none] at fewer
      exact absurd fewer.symm.eq_nil (cons_ne_nil _ _)
    · rw [one] at fewer
      obtain ⟨sent,empty⟩ := List.cons.inj (singleton_perm.mp fewer)
      refine .inl ⟨empty.symm,?_⟩
      rw [if_pos same, ← sent]
  · rw [filter_cons_of_neg (by simpa using same)] at fewer
    rw [if_neg same]
    rcases converging sid with ⟨none,told⟩ | one
    · rw [none] at fewer
      exact .inl ⟨fewer.symm.eq_nil,told⟩
    · rw [one] at fewer
      exact .inr (singleton_perm.mp fewer).symm

theorem step_converges {reg after : Registry}
    (converging : Converging reg) (inTurn : InTurn reg action)
    (step : Step reg action after) : Converging after := by
  cases step with
  | lock order => exact lock_converges converging inTurn order
  | send next => exact send_converges converging next

/-- Where a Session's changes are announced in turn, who has heard all knows its owner. -/
theorem ownership_notices_converge {actions : List Action} {registry : Registry}
    (run : Run (Guarded InTurn Step) .empty actions registry) (sessionId : String)
    (told : ∀ changes ∈ registry.unsent, ∀ change ∈ changes, change.sessionId ≠ sessionId) :
    registry.announced sessionId = registry.owners.lookup sessionId := by
  have converging := guarded_run_invariant Converging step_converges run fun _ => .inl ⟨rfl,rfl⟩
  rcases converging sessionId with ⟨-,known⟩ | one
  · exact known
  have listed : (⟨sessionId,registry.owners.lookup sessionId⟩ : ResizeOwnershipChange) ∈
      registry.unsent.flatten := by
    apply mem_of_mem_filter (p := (·.sessionId == sessionId))
    rw [Registry.waiting] at one
    rw [one]
    exact mem_singleton_self _
  obtain ⟨changes,unsent,present⟩ := mem_flatten.mp listed
  exact absurd rfl (told changes unsent _ present)

theorem second_focus_is_announced : ∃ registry, Run (Guarded InTurn Step) .empty
        [.lock (.focus "s" 1), .send 0, .lock (.focus "s" 2), .send 1] registry ∧
      registry.owners.lookup "s" = some 2 ∧
      registry.announced "s" = registry.owners.lookup "s" := by
  have run : Run (Guarded InTurn Step) .empty
      [.lock (.focus "s" 1), .send 0, .lock (.focus "s" 2), .send 1] _ :=
    .cons ⟨fun _ _ => rfl,.lock (.refl _)⟩ (.cons ⟨trivial,.send rfl⟩
      (.cons ⟨by unfold InTurn; decide,.lock (.refl _)⟩ (run_single ⟨trivial,.send rfl⟩)))
  exact ⟨_,run,rfl,ownership_notices_converge run "s" (by decide)⟩

/-- The first of two focusing connections announces last, and everyone takes it for the
    owner that the second one is. -/
theorem late_notice_names_former_owner : ∃ registry, Run Step .empty
        [.lock (.focus "s" 1), .lock (.focus "s" 2), .send 1, .send 0] registry ∧
      (∀ changes ∈ registry.unsent, changes = []) ∧
      registry.announced "s" = some 1 ∧ registry.owners.lookup "s" = some 2 := by
  let first : Registry := ⟨(∅ : Owners).insert "s" 1,[[⟨"s",some 1⟩]],[]⟩
  let second : Registry :=
    ⟨first.owners.insert "s" 2,[[⟨"s",some 1⟩], [⟨"s",some 2⟩]],[]⟩
  let told : Registry := ⟨second.owners,[[⟨"s",some 1⟩], []],[⟨"s",some 2⟩]⟩
  let late : Registry := ⟨second.owners,[[], []],[⟨"s",some 2⟩, ⟨"s",some 1⟩]⟩
  have one : Step .empty (.lock (.focus "s" 1)) first := Step.lock (.refl _)
  have two : Step first (.lock (.focus "s" 2)) second := Step.lock (.refl _)
  have three : Step second (.send 1) told := Step.send rfl
  have four : Step told (.send 0) late := Step.send rfl
  exact ⟨late,Run.cons one (Run.cons two (Run.cons three (run_single four))),by decide,rfl,rfl⟩

end TermloopResize
