import Termloop.Store.WorktreeJournals

/-!
Every call on the worktree journals is a move of the ledger. The ledger of a state is
read off its tables; edits of stages and failures do not show in it, and each of the
calls that enter, replace or finish an operation makes one of the named moves.
-/
namespace TermloopJournals
open TermloopRecordLists TermloopOutcome TermloopStore TermloopReceipts TermloopRelocation List
variable {changed st : CurrentState} {op : WorktreeCleanupOperation}
  {done now : Nat} {taskId opId : String} {saves : Bool}

def provisioningEntry (operation : WorktreeProvisioningOperation) : Entry :=
  ⟨.provisioning, operation.operationId, operation.taskId, none⟩

def cleanupEntry (operation : WorktreeCleanupOperation) : Entry :=
  ⟨.cleanup operation.worktreeGeneration, operation.operationId, operation.taskId,
    some operation.managedWorktreeOperationId⟩

def repairEntry (operation : WorktreeRepairOperation) : Entry :=
  ⟨.repair operation.expectedWorktreeGeneration, operation.operationId, operation.taskId,
    some operation.managedWorktreeOperationId⟩

def staleEntry (operation : WorktreeStaleResolutionOperation) : Entry :=
  ⟨.staleResolution operation.worktreeGeneration, operation.operationId, operation.taskId,
    operation.managedWorktreeOperationId⟩

def transferOf (operation : SessionRelocationOperation) : Transfer :=
  ⟨operation.operationId, operation.sessionId, operation.targetTaskId,
    operation.targetWorktreeGeneration⟩

def proofName (proof : ManagedWorktreeProof) : String × Owner :=
  (proof.operationId, .provisioning proof.taskId)

def relocationReceiptName (receipt : SessionRelocationReceipt) : String × Owner :=
  (receipt.operationId, .relocation receipt.sessionId)

def cleanupReceiptNames (receipt : WorktreeCleanupReceipt) : List (String × Owner) :=
  (receipt.operationId, .cleanup receipt.taskId)
    :: managedNames receipt.taskId (some receipt.managedWorktreeOperationId)

def repairReceiptNames (receipt : WorktreeRepairReceipt) : List (String × Owner) :=
  (receipt.operationId, .repair receipt.taskId)
    :: managedNames receipt.taskId (some receipt.managedWorktreeOperationId)

def staleReceiptNames (receipt : WorktreeStaleResolutionReceipt) : List (String × Owner) :=
  (receipt.operationId, .staleResolution receipt.taskId)
    :: managedNames receipt.taskId receipt.managedWorktreeOperationId

def entriesOf (state : CurrentState) : List Entry :=
  state.provisioningOperations.map provisioningEntry
    ++ state.cleanupOperations.map cleanupEntry
    ++ state.repairOperations.map repairEntry
    ++ state.staleResolutionOperations.map staleEntry

def settledOf (state : CurrentState) : List (String × Owner) :=
  state.taskArchiveOperations.map (fun operation =>
      (operation.operationId, .taskArchive operation.taskId))
    ++ state.sessionArchiveOperations.map (fun operation =>
      (operation.operationId, .sessionArchive operation.sessionId))
    ++ state.sessionRelocationReceipts.map relocationReceiptName
    ++ state.managedWorktrees.map proofName
    ++ state.cleanupReceipts.flatMap cleanupReceiptNames
    ++ state.repairReceipts.flatMap repairReceiptNames
    ++ state.staleResolutionReceipts.flatMap staleReceiptNames

def checkoutOf (state : CurrentState) (taskId : String) : Checkout where
  worktree := (state.task? taskId).bind (·.worktree)
  proofs := state.managedWorktrees.filter (·.taskId == taskId)
  cleanupReceipts := state.cleanupReceipts.filter (·.taskId == taskId)
  repairReceipts := state.repairReceipts.filter (·.taskId == taskId)
  staleReceipts := state.staleResolutionReceipts.filter (·.taskId == taskId)

def ledger (state : CurrentState) : Ledger where
  entries := entriesOf state
  transfers := state.sessionRelocationOperations.map transferOf
  settled := settledOf state
  generation taskId := (state.task? taskId).map (·.worktreeGeneration)
  checkout taskId := checkoutOf state taskId

section Owners
variable {pre after : Ledger} {name : String × Owner} {entry : Entry}

theorem mem_owners :
    name ∈ pre.owners ↔ name ∈ pre.settled ∨ (∃ entry ∈ pre.entries, name ∈ entry.names)
      ∨ ∃ transfer ∈ pre.transfers, transfer.name = name := by
  simp only [Ledger.owners, mem_append, mem_flatMap, mem_map, or_assoc]

theorem entry_named (held : entry ∈ pre.entries) : entry.names ⊆ pre.owners :=
  fun _ named => mem_owners.mpr (.inr (.inl ⟨entry,held,named⟩))

theorem settled_owned (known : name ∈ pre.settled) : name ∈ pre.owners :=
  mem_owners.mpr (.inl known)

theorem owners_inherited (settled : after.settled ⊆ pre.owners)
    (entries : after.entries ⊆ pre.entries)
    (transfers : after.transfers ⊆ pre.transfers) : after.owners ⊆ pre.owners := by
  intro name owned
  rcases mem_owners.mp owned with known | ⟨entry,held,named⟩ | ⟨transfer,moving,same⟩
  · exact settled known
  · exact entry_named (entries held) named
  · exact mem_owners.mpr (.inr (.inr ⟨transfer,transfers moving,same⟩))

theorem owners_opened (settled : after.settled = pre.settled)
    (entries : after.entries ⊆ entry :: pre.entries) (transfers : after.transfers = pre.transfers)
    (managed : managedNames entry.taskId entry.managed ⊆ pre.owners) :
    after.owners ⊆ (entry.operationId, entry.owner) :: pre.owners := by
  intro name owned
  rcases mem_owners.mp owned with known | ⟨other,held,named⟩ | ⟨transfer,moving,same⟩
  · exact mem_cons_of_mem _ (settled_owned (settled ▸ known))
  · rcases mem_cons.mp (entries held) with new | old
    · subst new
      rcases mem_cons.mp named with own | source
      · exact own ▸ mem_cons_self
      · exact mem_cons_of_mem _ (managed source)
    · exact mem_cons_of_mem _ (entry_named old named)
  · exact mem_cons_of_mem _ (mem_owners.mpr (.inr (.inr ⟨transfer,transfers ▸ moving,same⟩)))

theorem replaced_subset {entries replaced : List Entry} (kept : entries.Perm (old :: rest))
    (opened : replaced.Perm (new :: rest)) : replaced ⊆ new :: entries := by
  intro entry held
  rcases mem_cons.mp (opened.subset held) with rfl | other
  · exact mem_cons_self
  · exact mem_cons_of_mem _ (kept.symm.subset (mem_cons_of_mem _ other))

end Owners

section Tables
variable {label : MoveLabel}

theorem commit_move (saves : Bool) (value : α) (move : Move (ledger st) label (ledger changed)) :
    Move (ledger st) label (ledger (commitOrRestore saves st changed value).2) := by
  cases saves with
  | false => exact Move.idle label
  | true => exact move

theorem settle_move (entries : (entriesOf changed).Sublist (entriesOf st))
    (transfers : (changed.sessionRelocationOperations.map transferOf).Sublist
      (st.sessionRelocationOperations.map transferOf))
    (tasks : SameTasks (ledger st) (ledger changed) Never)
    (known : settledOf changed ⊆ (ledger st).owners) :
    Move (ledger st) .other (ledger changed) :=
  Move.settle entries transfers tasks (owners_inherited known entries.subset transfers.subset)

theorem settled_known (same : settledOf changed = settledOf st) :
    settledOf changed ⊆ (ledger st).owners := by
  intro name known
  rw [same] at known
  exact settled_owned known

theorem proof_known (st : CurrentState) (proof : ManagedWorktreeProof)
    (mem : proof ∈ st.managedWorktrees) :
    proofName proof ∈ (ledger st).owners := by
  apply settled_owned
  simp only [ledger, settledOf, mem_append]
  exact .inl (.inl (.inl (.inr (mem_map_of_mem mem))))

theorem proof_manages (proven : (st.managedWorktrees.find? (·.taskId == taskId)) = some proof) :
    managedNames taskId (some proof.operationId) ⊆ (ledger st).owners := by
  intro name named
  simp only [managedNames, Option.toList_some, map_cons, map_nil, mem_singleton] at named
  have owner : proof.taskId = taskId := by simpa using find?_some proven
  have known := proof_known st proof (mem_of_find?_eq_some proven)
  rwa [named, ← owner]

section Repeats
variable {α : Type} {names : α → List (String × Owner)} {old : List α} {wanted : α → Bool}

/-- Each new record is an old one, or names only what is known. -/
def Repeats (state : CurrentState) (names : α → List (String × Owner)) (old new : List α) : Prop :=
  ∀ record ∈ new, record ∈ old ∨ names record ⊆ (ledger state).owners

theorem repeats_self : Repeats st names old old :=
  fun _ => .inl

theorem repeats_filter : Repeats st names old (old.filter wanted) :=
  fun _ kept => .inl (mem_filter.mp kept).1

theorem repeats_replaced (known : names new ⊆ (ledger st).owners) :
    Repeats st names old (old.filter wanted ++ [new]) := by
  intro record mem
  rcases mem_append.mp mem with kept | added
  · exact repeats_filter record kept
  · exact .inr (mem_singleton.mp added ▸ known)

theorem repeats_flatMap (known : old.flatMap names ⊆ (ledger st).owners)
    (repeats : Repeats st names old new) : new.flatMap names ⊆ (ledger st).owners := by
  intro name mem
  obtain ⟨record,here,named⟩ := mem_flatMap.mp mem
  rcases repeats record here with pre | owned
  · exact known (mem_flatMap_of_mem pre named)
  · exact owned named

end Repeats

theorem settled_repeats (taskArchives : changed.taskArchiveOperations = st.taskArchiveOperations)
    (sessionArchives : changed.sessionArchiveOperations = st.sessionArchiveOperations)
    (relocations : Repeats st (fun receipt => [relocationReceiptName receipt])
      st.sessionRelocationReceipts changed.sessionRelocationReceipts)
    (proofs : Repeats st (fun proof => [proofName proof]) st.managedWorktrees
      changed.managedWorktrees)
    (cleanups : Repeats st cleanupReceiptNames st.cleanupReceipts changed.cleanupReceipts)
    (repairs : Repeats st repairReceiptNames st.repairReceipts changed.repairReceipts)
    (stales : Repeats st staleReceiptNames st.staleResolutionReceipts
      changed.staleResolutionReceipts) :
    settledOf changed ⊆ (ledger st).owners := by
  have known : settledOf st ⊆ (ledger st).owners := fun _ mem => settled_owned mem
  simp only [settledOf, append_subset, ← flatMap_pure_eq_map] at known ⊢
  rw [taskArchives, sessionArchives]
  obtain ⟨⟨⟨⟨⟨archived,oldRelocations⟩,oldProofs⟩,oldCleanups⟩,oldRepairs⟩,oldStales⟩ := known
  exact ⟨⟨⟨⟨⟨archived,repeats_flatMap oldRelocations relocations⟩,
    repeats_flatMap oldProofs proofs⟩,repeats_flatMap oldCleanups cleanups⟩,
    repeats_flatMap oldRepairs repairs⟩,repeats_flatMap oldStales stales⟩

theorem entries_sublist
    (provisioning : (changed.provisioningOperations.map provisioningEntry).Sublist
      (st.provisioningOperations.map provisioningEntry))
    (cleanup : (changed.cleanupOperations.map cleanupEntry).Sublist (st.cleanupOperations.map
      cleanupEntry))
    (repair : (changed.repairOperations.map repairEntry).Sublist (st.repairOperations.map
      repairEntry)) (stale : (changed.staleResolutionOperations.map staleEntry).Sublist
      (st.staleResolutionOperations.map staleEntry)) :
    (entriesOf changed).Sublist (entriesOf st) :=
  ((provisioning.append cleanup).append repair).append stale

theorem provisioning_kept (kept : (operations.map provisioningEntry).Sublist
      (st.provisioningOperations.map provisioningEntry)) :
    Move (ledger st) .other (ledger { st with provisioningOperations := operations }) :=
  settle_move (entries_sublist kept (.refl _) (.refl _) (.refl _)) (.refl _)
    (fun _ _ => ⟨rfl,rfl⟩) (settled_known rfl)

theorem cleanup_kept
    (kept : (operations.map cleanupEntry).Sublist (st.cleanupOperations.map cleanupEntry)) :
    Move (ledger st) .other (ledger { st with cleanupOperations := operations }) :=
  settle_move (entries_sublist (.refl _) kept (.refl _) (.refl _)) (.refl _)
    (fun _ _ => ⟨rfl,rfl⟩) (settled_known rfl)

theorem repair_kept
    (kept : (operations.map repairEntry).Sublist (st.repairOperations.map repairEntry)) :
    Move (ledger st) .other (ledger { st with repairOperations := operations }) :=
  settle_move (entries_sublist (.refl _) (.refl _) kept (.refl _)) (.refl _)
    (fun _ _ => ⟨rfl,rfl⟩) (settled_known rfl)

theorem stale_kept (kept : (operations.map staleEntry).Sublist
      (st.staleResolutionOperations.map staleEntry)) :
    Move (ledger st) .other (ledger { st with staleResolutionOperations := operations }) :=
  settle_move (entries_sublist (.refl _) (.refl _) (.refl _) kept) (.refl _)
    (fun _ _ => ⟨rfl,rfl⟩) (settled_known rfl)

theorem provisioning_perm (st : CurrentState)
    {op : WorktreeProvisioningOperation} (order : operations.Perm (op :: rest)) :
    (entriesOf { st with provisioningOperations := operations }).Perm
      (provisioningEntry op :: entriesOf { st with provisioningOperations := rest }) :=
  (((order.map provisioningEntry).append_right _).append_right _).append_right _

theorem cleanup_perm (st : CurrentState) (order : operations.Perm (op :: rest)) :
    (entriesOf { st with cleanupOperations := operations }).Perm
      (cleanupEntry op :: entriesOf { st with cleanupOperations := rest }) :=
  (((((order.map cleanupEntry).append_left _).trans perm_middle).append_right _).append_right _)

theorem repair_perm (st : CurrentState)
    {op : WorktreeRepairOperation} (order : operations.Perm (op :: rest)) :
    (entriesOf { st with repairOperations := operations }).Perm
      (repairEntry op :: entriesOf { st with repairOperations := rest }) :=
  ((((order.map repairEntry).append_left _).trans perm_middle).append_right _)

theorem stale_perm (st : CurrentState)
    {op : WorktreeStaleResolutionOperation} (order : operations.Perm (op :: rest)) :
    (entriesOf { st with staleResolutionOperations := operations }).Perm
      (staleEntry op :: entriesOf { st with staleResolutionOperations := rest }) :=
  ((order.map staleEntry).append_left _).trans perm_middle

theorem edited {α β : Type} {view : α → β} {wanted : α → Bool} {change : α → α}
    (same : ∀ record, view (change record) = view record) (records : List α) :
    ((updateFirst wanted change records).map view).Sublist (records.map view) := by
  rw [map_updateFirst same]

theorem erased (records : List α) : ((records.eraseP wanted).map view).Sublist (records.map view) :=
  eraseP_sublist.map view

end Tables

section Bindings
variable {holder : Entry} {task : TaskRecord} {change : TaskRecord → TaskRecord}

theorem task?_changed (keeps : ∀ task, (change task).id = task.id)
    (tasks : changed.tasks = updateFirst (·.id == holder.taskId) change st.tasks)
    (taskId : String) :
    changed.task? taskId =
      if taskId = holder.taskId then (st.task? taskId).map change else st.task? taskId := by
  rw [CurrentState.task?, tasks]
  exact find?_updateFirst keeps holder.taskId taskId st.tasks

/-- Proofs and receipts of every other Task stay. -/
structure OtherRecords (state changed : CurrentState) (taskId : String) : Prop where
  proofs : ∀ other, other ≠ taskId →
    (changed.managedWorktrees.filter (·.taskId == other)) =
      state.managedWorktrees.filter (·.taskId == other)
  cleanups : ∀ other, other ≠ taskId →
    (changed.cleanupReceipts.filter (·.taskId == other)) =
      state.cleanupReceipts.filter (·.taskId == other)
  repairs : ∀ other, other ≠ taskId →
    (changed.repairReceipts.filter (·.taskId == other)) =
      state.repairReceipts.filter (·.taskId == other)
  stales : ∀ other, other ≠ taskId →
    (changed.staleResolutionReceipts.filter (·.taskId == other)) =
      state.staleResolutionReceipts.filter (·.taskId == other)

theorem others_same (keeps : ∀ task, (change task).id = task.id)
    (tasks : changed.tasks = updateFirst (·.id == holder.taskId) change st.tasks)
    (records : OtherRecords st changed holder.taskId) :
    SameTasks (ledger st) (ledger changed) (· = holder.taskId) := by
  intro taskId other
  have lookup := task?_changed keeps tasks taskId
  rw [if_neg other] at lookup
  constructor
  · simp only [ledger, lookup]
  · simp only [ledger, checkoutOf, lookup, records.proofs taskId other,
      records.cleanups taskId other, records.repairs taskId other, records.stales taskId other]

theorem bind_move (held : holder ∈ (ledger st).entries) (fenced : holder.hold = .provisioning ∨
      (holder.hold.generation? = (ledger st).generation holder.taskId
        ∧ ∀ entry ∈ (ledger changed).entries, entry.owner ≠ holder.owner))
    (entries : (entriesOf changed).Sublist (entriesOf st))
    (transfers : changed.sessionRelocationOperations = st.sessionRelocationOperations)
    (keeps : ∀ task, (change task).id = task.id)
    (tasks : changed.tasks = updateFirst (·.id == holder.taskId) change st.tasks)
    (hit : st.task? holder.taskId = some task)
    (raised : (change task).worktreeGeneration = task.worktreeGeneration + 1)
    (bound : (change task).worktree.isSome) (records : OtherRecords st changed holder.taskId)
    (known : settledOf changed ⊆ (ledger st).owners) :
    Move (ledger st) (.bind holder.taskId) (ledger changed) := by
  have lookup := task?_changed keeps tasks holder.taskId
  rw [if_pos rfl, hit, Option.map_some] at lookup
  have moving : (ledger changed).transfers = (ledger st).transfers := by
    simp only [ledger, transfers]
  refine Move.bind held fenced entries moving ?_ ?_ (others_same keeps tasks records)
    (owners_inherited known entries.subset (fun _ mem => moving ▸ mem))
  · simp [ledger, lookup, hit, raised]
  · simp [Ledger.bound, ledger, checkoutOf, lookup, bound]

theorem unbind_move (held : holder ∈ (ledger st).entries)
    (entries : (entriesOf changed).Sublist (entriesOf st))
    (transfers : changed.sessionRelocationOperations = st.sessionRelocationOperations)
    (tasks : changed.tasks = updateFirst (·.id == holder.taskId) (TaskRecord.unbind done) st.tasks)
    (records : OtherRecords st changed holder.taskId)
    (known : settledOf changed ⊆ (ledger st).owners) :
    Move (ledger st) (.unbind holder.taskId) (ledger changed) := by
  have keeps : ∀ task : TaskRecord, (task.unbind done).id = task.id := fun _ => rfl
  have lookup := task?_changed keeps tasks holder.taskId
  rw [if_pos rfl] at lookup
  have moving : (ledger changed).transfers = (ledger st).transfers := by
    simp only [ledger, transfers]
  refine Move.unbind held entries moving ?_ (others_same keeps tasks records)
    (owners_inherited known entries.subset (fun _ mem => moving ▸ mem))
  cases hit : st.task? holder.taskId <;> simp [ledger, lookup, hit, TaskRecord.unbind]

end Bindings

theorem find?_none {key : α → String} {records : List α}
    (missing : (records.find? fun record => key record == value) = none) :
    ∀ record ∈ records, key record ≠ value := by
  intro record mem same
  exact find?_eq_none.mp missing record mem (beq_iff_eq.mpr same)

theorem entries_free (provisioning : ∀ op ∈ st.provisioningOperations, op.taskId ≠ taskId)
    (cleanup : ∀ op ∈ st.cleanupOperations, op.taskId ≠ taskId)
    (repair : ∀ op ∈ st.repairOperations, op.taskId ≠ taskId)
    (stale : ∀ op ∈ st.staleResolutionOperations, op.taskId ≠ taskId) :
    ∀ entry ∈ (ledger st).entries, entry.taskId ≠ taskId := by
  intro entry held
  simp only [ledger, entriesOf, mem_append, mem_map] at held
  rcases held with ((⟨op,mem,rfl⟩ | ⟨op,mem,rfl⟩) | ⟨op,mem,rfl⟩) | ⟨op,mem,rfl⟩
  · exact provisioning op mem
  · exact cleanup op mem
  · exact repair op mem
  · exact stale op mem

theorem managed_name {id : String}
    (named : (id, owner) ∈ managedNames taskId managed) : managed = some id := by
  simp only [managedNames, mem_map, Option.mem_toList, Prod.mk.injEq] at named
  obtain ⟨source,made,rfl,-⟩ := named
  exact made

theorem names_apart {own id : String} (apart : ¬ own = id ∧ ¬ managed = some id) :
    (id, owner) ∉ (own, behind) :: managedNames taskId managed := by
  intro named
  rcases mem_cons.mp named with same | source
  · exact apart.1 (congrArg Prod.fst same).symm
  · exact apart.2 (managed_name source)

theorem unowned (fresh : operationIdOwnedAnywhere st opId = false) :
    ∀ owner, (opId, owner) ∉ (ledger st).owners := by
  simp only [operationIdOwnedAnywhere, operationIdOwnedByProvisioning, operationIdOwnedByCleanup,
    Bool.or_eq_false_iff, any_eq_false, Bool.or_eq_true, beq_iff_eq, not_or] at fresh
  obtain ⟨⟨⟨⟨⟨⟨⟨⟨⟨taskArchives,sessionArchives⟩,relocations⟩,relocationReceipts⟩,
    provisionings,proofs⟩,cleanups,cleanupReceipts⟩,repairs⟩,repairReceipts⟩,stales⟩,
    staleReceipts⟩ := fresh
  intro owner known
  rcases mem_owners.mp known with settled | ⟨entry,held,named⟩ | ⟨transfer,moving,same⟩
  · simp only [ledger, settledOf, mem_append, mem_map, mem_flatMap, Prod.mk.injEq,
      proofName, relocationReceiptName] at settled
    rcases settled with (((((⟨record,mem,same,-⟩ | ⟨record,mem,same,-⟩) |
      ⟨record,mem,same,-⟩) | ⟨record,mem,same,-⟩) | ⟨record,mem,named⟩) |
      ⟨record,mem,named⟩) | ⟨record,mem,named⟩
    · exact taskArchives record mem same
    · exact sessionArchives record mem same
    · exact relocationReceipts record mem same
    · exact proofs record mem same
    · exact names_apart ((cleanupReceipts record mem).imp_right (mt Option.some.inj)) named
    · exact names_apart ((repairReceipts record mem).imp_right (mt Option.some.inj)) named
    · exact names_apart (staleReceipts record mem) named
  · simp only [ledger, entriesOf, mem_append, mem_map] at held
    rcases held with ((⟨record,mem,rfl⟩ | ⟨record,mem,rfl⟩) | ⟨record,mem,rfl⟩) | ⟨record,mem,rfl⟩
    · have apart : ¬ record.operationId = opId ∧ ¬ none = some opId :=
        ⟨provisionings record mem,by simp⟩
      exact names_apart apart named
    · exact names_apart ((cleanups record mem).imp_right (mt Option.some.inj)) named
    · exact names_apart ((repairs record mem).imp_right (mt Option.some.inj)) named
    · exact names_apart (stales record mem) named
  · simp only [ledger, mem_map] at moving
    obtain ⟨record,mem,rfl⟩ := moving
    exact relocations record mem (congrArg Prod.fst same)

theorem structuralConflict_none (missing : structuralConflict st taskId = none) :
    (∀ op ∈ st.cleanupOperations, op.taskId ≠ taskId)
      ∧ (∀ op ∈ st.repairOperations, op.taskId ≠ taskId)
      ∧ ∀ op ∈ st.staleResolutionOperations, op.taskId ≠ taskId := by
  unfold structuralConflict at missing
  split at missing
  · cases missing
  rename_i cleanup
  split at missing
  · cases missing
  rename_i repair
  exact ⟨find?_none cleanup,find?_none repair,find?_none (Option.map_eq_none_iff.mp missing)⟩

theorem beginProvisioning_move (op : WorktreeProvisioningOperation) :
    Move (ledger st) (.reserve op.operationId op.taskId)
      (ledger (beginTaskWorktreeProvisioning op saves st).2) := by
  unfold beginTaskWorktreeProvisioning
  split
  · exact Move.idle _
  rename_i task hit
  iterate 3 (split; · exact Move.idle _)
  rename_i alone
  split
  · split <;> exact Move.idle _
  split
  · exact Move.idle _
  split
  · split <;> exact Move.idle _
  rename_i first
  split
  · exact Move.idle _
  rename_i unbound
  split
  · exact Move.idle _
  obtain ⟨cleanup,repair,stale⟩ := structuralConflict_none alone
  have opened := provisioning_perm st (perm_append_singleton op st.provisioningOperations)
  have absent : (ledger st).bound op.taskId = false := by
    simpa [Ledger.bound, ledger, checkoutOf, hit] using unbound
  exact commit_move saves _ (@Move.reserve _ _ (provisioningEntry op) rfl opened
    (entries_free (find?_none first) cleanup repair stale) absent rfl (fun _ _ => ⟨rfl,rfl⟩)
    (owners_opened rfl opened.subset rfl (nil_subset _)))

theorem commitProvisioningBinding_move {commit : ProvisioningCommit} :
    Move (ledger st) (.bind taskId)
      (ledger (commitTaskWorktreeProvisioning taskId opId commit saves st).2) := by
  dsimp only [commitTaskWorktreeProvisioning]
  split
  · exact Move.idle _
  rename_i op hit
  split
  · exact Move.idle _
  rename_i matching
  split
  · exact Move.idle _
  rename_i task bound
  iterate 3 (split; · exact Move.idle _)
  obtain ⟨named,numbered⟩ : op.taskId = taskId ∧ op.operationId = opId := by
    simpa using find?_some hit
  subst named numbered
  have held : provisioningEntry op ∈ (ledger st).entries := by
    simp only [ledger, entriesOf, mem_append]
    exact .inl (.inl (.inl (mem_map_of_mem (mem_of_find?_eq_some hit))))
  simp only [commitMismatch, Bool.not_eq_true, Bool.or_eq_false_iff, bne_eq_false_iff_eq]
    at matching
  obtain ⟨⟨⟨-,proofTask⟩,proofId⟩,-⟩ := matching
  have keeps : ∀ task : TaskRecord, (task.bind commit).id = task.id := fun _ => rfl
  refine commit_move saves _ (bind_move held (.inl rfl) ?entries rfl keeps rfl bound
    rfl rfl ⟨fun _ apart => filter_replaced apart (by exact proofTask) _,fun _ _ => rfl,
      fun _ _ => rfl,fun _ _ => rfl⟩
    (settled_repeats rfl rfl repeats_self (repeats_replaced ?proof) repeats_self repeats_self
      repeats_self))
  case entries =>
    exact entries_sublist (edited (by intro; rfl) _) (.refl _) (.refl _) (.refl _)
  case proof =>
    refine List.Subset.trans ?_ (entry_named held)
    simp [proofName, Entry.names, Entry.owner, provisioningEntry, proofTask, proofId]

theorem cleanup_held (mem : op ∈ st.cleanupOperations) : cleanupEntry op ∈ (ledger st).entries := by
  simp only [ledger, entriesOf, mem_append]
  exact .inl (.inl (.inr (mem_map_of_mem mem)))

theorem checkedCleanup_spec (checked : checkedCurrentCleanup st taskId opId = .ok op) :
    st.cleanupOperations.find? (cleans taskId opId) = some op
      ∧ op.taskId = taskId ∧ ensureCleanupTuple st op = .ok () := by
  unfold checkedCurrentCleanup at checked
  split at checked
  · cases checked
  rename_i cur found
  obtain ⟨_,tuple,rfl⟩ := map_passed checked
  exact ⟨found,(both_eq (find?_some found :)).1,tuple⟩

theorem completeCleanup_move :
    Move (ledger st) (.unbind taskId) (ledger (completeTaskWorktreeCleanup taskId opId
      done saves st).2) := by
  unfold completeTaskWorktreeCleanup
  split
  · exact Move.idle _
  rename_i op checked
  iterate 2 (split; · exact Move.idle _)
  rename_i outcome _
  split
  · exact Move.idle _
  obtain ⟨hit,rfl,-⟩ := checkedCleanup_spec checked
  have mem := mem_of_find?_eq_some hit
  refine commit_move saves _ (unbind_move (cleanup_held mem) ?entries rfl rfl
    ⟨fun _ apart => filter_dropped apart _,fun _ apart => filter_replaced apart (by rfl) _,
      fun _ _ => rfl,fun _ _ => rfl⟩
    (settled_repeats rfl rfl repeats_self repeats_filter
      (repeats_replaced (entry_named (cleanup_held mem))) repeats_self repeats_self))
  case entries =>
    exact entries_sublist (.refl _) (edited (by intro; rfl) _) (.refl _) (.refl _)

theorem cleanupTuple_spec (passed : ensureCleanupTuple st op = .ok ()) :
    (ledger st).generation op.taskId = some op.worktreeGeneration
      ∧ managedNames op.taskId (some op.managedWorktreeOperationId) ⊆ (ledger st).owners := by
  unfold ensureCleanupTuple at passed
  split at passed
  · cases passed
  rename_i task hit
  split at passed
  · cases passed
  rename_i proof proven
  split at passed
  case isFalse => cases passed
  rename_i matching
  simp only [cleanupTupleMatches, Bool.and_eq_true, beq_iff_eq] at matching
  obtain ⟨⟨⟨⟨⟨⟨⟨-,gen⟩,-⟩,source⟩,-⟩,-⟩,-⟩,-⟩ := matching
  constructor
  · simp [ledger, hit, gen]
  · exact source ▸ proof_manages proven

theorem cleanupConflict_none (missing : cleanupConflict st taskId = none) :
    (∀ op ∈ st.provisioningOperations, op.taskId ≠ taskId)
      ∧ (∀ op ∈ st.repairOperations, op.taskId ≠ taskId)
      ∧ (∀ op ∈ st.staleResolutionOperations, op.taskId ≠ taskId)
      ∧ ∀ op ∈ st.sessionRelocationOperations, op.targetTaskId ≠ taskId := by
  unfold cleanupConflict at missing
  split at missing
  · cases missing
  rename_i provisioning
  split at missing
  · cases missing
  rename_i repair
  split at missing
  · cases missing
  rename_i stale
  exact ⟨find?_none provisioning,find?_none repair,find?_none stale,
    find?_none (Option.map_eq_none_iff.mp missing)⟩

theorem transfers_still (still : ∀ op ∈ st.sessionRelocationOperations, op.targetTaskId ≠ taskId) :
    ∀ transfer ∈ (ledger st).transfers, transfer.taskId ≠ taskId := by
  intro transfer moving
  obtain ⟨op,mem,rfl⟩ := mem_map.mp moving
  exact still op mem

theorem beginCleanup_move (op : WorktreeCleanupOperation) :
    Move (ledger st) .other (ledger (beginTaskWorktreeCleanup op saves st).2) := by
  unfold beginTaskWorktreeCleanup
  split
  · exact Move.idle _
  split
  · split <;> exact Move.idle _
  split
  · split <;> exact Move.idle _
  split
  · exact Move.idle _
  rename_i fresh
  split
  · exact Move.idle _
  rename_i tuple
  split
  · exact Move.idle _
  rename_i alone
  split
  · split <;> exact Move.idle _
  rename_i first
  split
  · exact Move.idle _
  obtain ⟨provisioning,repair,stale,still⟩ := cleanupConflict_none alone
  obtain ⟨cur,managed⟩ := cleanupTuple_spec tuple
  have opened := cleanup_perm st (perm_append_singleton op st.cleanupOperations)
  exact commit_move saves _ (@Move.start _ _ (cleanupEntry op) _ rfl cur opened
    (entries_free provisioning (find?_none first) repair stale) (transfers_still still) rfl
    (fun _ _ => ⟨rfl,rfl⟩) (unowned (eq_false_of_ne_true fresh))
    (owners_opened rfl opened.subset rfl managed))

theorem supersedeCleanup_move (replacement : WorktreeCleanupOperation) :
    Move (ledger st) .other (ledger (supersedeFailedTaskWorktreeCleanup previousOperationId
      replacement saves st).2) := by
  unfold supersedeFailedTaskWorktreeCleanup
  iterate 3 (split; · exact Move.idle _)
  rename_i previous found
  iterate 2 (split; · exact Move.idle _)
  rename_i fresh
  split
  · exact Move.idle _
  rename_i tuple
  obtain ⟨cur,managed⟩ := cleanupTuple_spec tuple
  have same : previous.taskId = replacement.taskId := (both_eq (find?_some found :)).1
  have mem := cleanup_perm st (perm_cons_eraseP found)
  have replaced := cleanup_perm st (@perm_updateFirst _ _ (fun _ => replacement) _ _ found)
  exact commit_move saves _ (@Move.replace _ _ (cleanupEntry previous)
    (cleanupEntry replacement) _ _ nofun same.symm rfl cur mem replaced rfl
    (fun _ _ => ⟨rfl,rfl⟩) (unowned (eq_false_of_ne_true fresh))
    (owners_opened rfl (replaced_subset mem replaced) rfl managed))

section Repair
variable {op : WorktreeRepairOperation}

theorem repair_held (mem : op ∈ st.repairOperations) : repairEntry op ∈ (ledger st).entries := by
  simp only [ledger, entriesOf, mem_append]
  exact .inl (.inr (mem_map_of_mem mem))

theorem repairTuple_spec (passed : ensureRepairTuple st op = .ok ()) :
    (∃ task, st.task? op.taskId = some task
        ∧ task.worktreeGeneration = op.expectedWorktreeGeneration)
      ∧ managedNames op.taskId (some op.managedWorktreeOperationId) ⊆ (ledger st).owners := by
  unfold ensureRepairTuple at passed
  split at passed
  · cases passed
  rename_i task hit
  split at passed
  · cases passed
  rename_i proof proven
  iterate 2 (split at passed; · cases passed)
  rename_i matching
  simp only [Bool.or_eq_true, bne_iff_ne, not_or, ne_eq, not_not] at matching
  obtain ⟨⟨⟨gen,-⟩,source⟩,-⟩ := matching
  exact ⟨⟨task,hit,gen⟩,source ▸ proof_manages proven⟩

theorem repairConflict_none (missing : repairConflict st taskId = none) :
    (∀ entry ∈ (ledger st).entries, entry.taskId ≠ taskId)
      ∧ ∀ op ∈ st.sessionRelocationOperations, op.targetTaskId ≠ taskId := by
  unfold repairConflict at missing
  split at missing
  · cases missing
  rename_i provisioning
  split at missing
  · cases missing
  rename_i cleanup
  split at missing
  · cases missing
  rename_i stale
  split at missing
  · cases missing
  rename_i relocation
  exact ⟨entries_free (find?_none provisioning) (find?_none cleanup)
    (find?_none (Option.map_eq_none_iff.mp missing)) (find?_none stale),find?_none relocation⟩

theorem beginRepair_move (op : WorktreeRepairOperation) :
    Move (ledger st) .other (ledger (beginTaskWorktreeRepair op saves st).2) := by
  unfold beginTaskWorktreeRepair
  split
  · split <;> exact Move.idle _
  split
  · split <;> exact Move.idle _
  split
  · exact Move.idle _
  rename_i fresh
  split
  · exact Move.idle _
  rename_i tuple
  split
  · exact Move.idle _
  rename_i alone
  split
  · exact Move.idle _
  obtain ⟨free,still⟩ := repairConflict_none alone
  obtain ⟨⟨task,hit,gen⟩,managed⟩ := repairTuple_spec tuple
  have cur : (ledger st).generation op.taskId = some op.expectedWorktreeGeneration := by
    simp [ledger, hit, gen]
  have opened := repair_perm st (perm_append_singleton op st.repairOperations)
  exact commit_move saves _ (@Move.start _ _ (repairEntry op) _ rfl cur opened
    free (transfers_still still) rfl (fun _ _ => ⟨rfl,rfl⟩)
    (unowned (eq_false_of_ne_true fresh)) (owners_opened rfl opened.subset rfl managed))

theorem repair_released (gone : ∀ op ∈ st.repairOperations, op.taskId ≠ taskId) :
    ∀ entry ∈ (ledger st).entries, entry.owner ≠ .repair taskId := by
  intro entry held
  simp only [ledger, entriesOf, mem_append, mem_map] at held
  rcases held with ((⟨op,mem,rfl⟩ | ⟨op,mem,rfl⟩) | ⟨op,mem,rfl⟩) | ⟨op,mem,rfl⟩
  · exact nofun
  · exact nofun
  · exact fun same => gone op mem (Owner.repair.inj same)
  · exact nofun

theorem completeRepair_move :
    Move (ledger st) (.bind taskId) (ledger (completeTaskWorktreeRepair taskId opId
      done saves st).2) := by
  unfold completeTaskWorktreeRepair
  split
  · exact Move.idle _
  rename_i op found
  split
  · exact Move.idle _
  rename_i tuple
  iterate 3 (split; · exact Move.idle _)
  · exact Move.idle _
  have mem := mem_of_find?_eq_some found
  obtain ⟨rfl,rfl⟩ := both_eq (find?_some found :)
  obtain ⟨⟨task,bound,gen⟩,-⟩ := repairTuple_spec tuple
  have held := repair_held mem
  have keeps : ∀ task : TaskRecord, (task.rebind op.candidatePath
      (op.expectedWorktreeGeneration + 1) done).id = task.id := fun _ => rfl
  have cur : (repairEntry op).hold.generation? = (ledger st).generation op.taskId := by
    simp [ledger, bound, gen, repairEntry, Hold.generation?]
  have sameProof : ∀ proof : ManagedWorktreeProof, (proof.rebind op.candidatePath
      (op.expectedWorktreeGeneration + 1)).taskId = proof.taskId := fun _ => rfl
  refine commit_move saves _ (bind_move held (.inr ⟨cur,repair_released ?gone⟩) ?entries
    rfl keeps rfl bound (congrArg (· + 1) gen).symm rfl
    ⟨fun _ apart => filter_updateFirst sameProof apart _,fun _ _ => rfl,
      fun _ apart => filter_replaced apart (by rfl) _,fun _ _ => rfl⟩
    (settled_repeats rfl rfl repeats_self ?proofs repeats_self
      (repeats_replaced (entry_named held)) repeats_self))
  case gone =>
    intro candidate kept same
    have apart := (mem_filter.mp kept).2
    rw [same] at apart
    simp [repairEntry] at apart
  case entries =>
    exact entries_sublist (.refl _) (.refl _) (filter_sublist.map _) (.refl _)
  case proofs =>
    intro proof kept
    rcases mem_updateFirst kept with old | ⟨previous,looked,rfl⟩
    · exact .inl old
    · exact .inr (cons_subset.mpr
        ⟨proof_known st previous (mem_of_find?_eq_some looked),nil_subset _⟩)

end Repair

section StaleResolution
variable {op : WorktreeStaleResolutionOperation}

theorem stale_held (mem : op ∈ st.staleResolutionOperations) :
    staleEntry op ∈ (ledger st).entries := by
  simp only [ledger, entriesOf, mem_append]
  exact .inr (mem_map_of_mem mem)

theorem completeStaleResolution_move :
    Move (ledger st) (.unbind taskId) (ledger (completeTaskWorktreeStaleResolution taskId opId
      done saves st).2) := by
  unfold completeTaskWorktreeStaleResolution
  repeat' split
  all_goals first
    | exact Move.idle _
    | skip
  rename_i op found _ _ _ _ _ _
  have held := stale_held (mem_of_find?_eq_some found)
  obtain ⟨rfl,-⟩ := both_eq (find?_some found :)
  refine commit_move saves _ (unbind_move held ?entries rfl rfl
    ⟨fun _ apart => filter_dropped apart _,fun _ _ => rfl,fun _ _ => rfl,
      fun _ apart => filter_replaced apart (by rfl) _⟩
    (settled_repeats rfl rfl repeats_self repeats_filter repeats_self repeats_self
      (repeats_replaced (entry_named held))))
  exact entries_sublist (.refl _) (.refl _) (.refl _) (erased _)

theorem check_passed
    (passed : (if check then .ok () else .error error : Except StoreError Unit) = .ok ()) :
    check = true := by
  cases check with
  | false => cases passed
  | true => rfl

theorem staleTuple_spec (passed : ensureStaleResolutionTuple st op = .ok ()) :
    (ledger st).generation op.taskId = some op.worktreeGeneration
      ∧ managedNames op.taskId op.managedWorktreeOperationId ⊆ (ledger st).owners := by
  unfold ensureStaleResolutionTuple at passed
  split at passed
  · cases passed
  rename_i task hit
  have matching := check_passed passed
  simp only [Bool.and_eq_true, beq_iff_eq] at matching
  obtain ⟨⟨gen,-⟩,managed⟩ := matching
  refine ⟨by simp [ledger, hit, gen],?_⟩
  split at managed
  · rename_i want proof named proven
    simp only [Bool.and_eq_true, beq_iff_eq] at managed
    rw [named, ← managed.1.2]
    exact proof_manages proven
  · rename_i unmanaged _
    rw [unmanaged]
    exact nil_subset _
  · cases managed

theorem staleConflict_none (missing : staleConflict st taskId = none) :
    (∀ op ∈ st.provisioningOperations, op.taskId ≠ taskId)
      ∧ (∀ op ∈ st.repairOperations, op.taskId ≠ taskId)
      ∧ ∀ op ∈ st.sessionRelocationOperations, op.targetTaskId ≠ taskId := by
  unfold staleConflict at missing
  split at missing
  · cases missing
  rename_i provisioning
  split at missing
  · cases missing
  rename_i repair
  exact ⟨find?_none provisioning,find?_none repair,find?_none (Option.map_eq_none_iff.mp missing)⟩

theorem beginStaleResolution_move (op : WorktreeStaleResolutionOperation)
    (superseded : Option String) :
    Move (ledger st) .other
      (ledger (beginTaskWorktreeStaleResolution op superseded saves st).2) := by
  unfold beginTaskWorktreeStaleResolution
  split
  · split <;> exact Move.idle _
  split
  · split <;> exact Move.idle _
  split
  · exact Move.idle _
  rename_i fresh
  split
  · exact Move.idle _
  rename_i tuple
  iterate 2 (split; · exact Move.idle _)
  rename_i alone
  iterate 2 (split; · exact Move.idle _)
  rename_i first
  obtain ⟨provisioning,repair,still⟩ := staleConflict_none alone
  obtain ⟨cur,managed⟩ := staleTuple_spec tuple
  have unused := unowned (eq_false_of_ne_true fresh)
  have opened := stale_perm
    { st with cleanupOperations := st.cleanupOperations.eraseP (·.taskId == op.taskId) }
    (perm_append_singleton op st.staleResolutionOperations)
  refine commit_move saves _ ?_
  -- a cleanup of the Task, if there is one, is the entry that gives way
  cases cleanup : st.cleanupOperations.find? (·.taskId == op.taskId) with
  | none =>
    have absent := find?_none cleanup
    have kept : (st.cleanupOperations.eraseP (·.taskId == op.taskId)) = st.cleanupOperations :=
      eraseP_of_forall_not fun cur mem => by simpa using absent cur mem
    rw [kept] at opened ⊢
    exact @Move.start _ _ (staleEntry op) _ rfl cur opened
      (entries_free provisioning absent repair (find?_none first)) (transfers_still still) rfl
      (fun _ _ => ⟨rfl,rfl⟩) unused (owners_opened rfl opened.subset rfl managed)
  | some previous =>
    have mem := cleanup_perm st (perm_cons_eraseP cleanup)
    have same : previous.taskId = op.taskId := by simpa using find?_some cleanup
    exact @Move.replace _ _ (cleanupEntry previous) (staleEntry op) _ _ nofun same.symm rfl
      cur mem opened rfl (fun _ _ => ⟨rfl,rfl⟩) unused
      (owners_opened rfl (replaced_subset mem opened) rfl managed)

end StaleResolution

section Relocation
variable {sid : String} {op : SessionRelocationOperation}

theorem transfer_moving (mem : op ∈ st.sessionRelocationOperations) :
    transferOf op ∈ (ledger st).transfers :=
  mem_map_of_mem mem

theorem commitRelocation_move :
    Move (ledger st) .other (ledger (commitSessionRelocation sid opId epoch
      resumeRef saves st).2) := by
  unfold commitSessionRelocation
  split
  · exact Move.idle _
  rename_i op hit
  repeat' split
  all_goals first
    | exact Move.idle _
    | skip
  refine commit_move saves _ (settle_move (.refl _) (erased _) (fun _ _ => ⟨rfl,rfl⟩)
    (settled_repeats rfl rfl (repeats_replaced ?receipt) repeats_self repeats_self repeats_self
      repeats_self))
  exact cons_subset.mpr ⟨mem_owners.mpr (.inr (.inr
    ⟨_,transfer_moving (mem_of_find?_eq_some hit),rfl⟩)),nil_subset _⟩

theorem relocationConflict_none (missing : relocationConflict st op = false) :
    ∀ entry ∈ (ledger st).entries, entry.taskId ≠ op.targetTaskId := by
  simp only [relocationConflict, Bool.or_eq_false_iff, any_eq_false, beq_iff_eq] at missing
  obtain ⟨⟨⟨⟨⟨-,provisioning⟩,cleanup⟩,repair⟩,stale⟩,-⟩ := missing
  exact entries_free provisioning cleanup repair stale

theorem bound_of_matches (matching : taskWorktreeMatches op sess task proof) :
    task.worktree.isSome := by
  unfold taskWorktreeMatches at matching
  cases bound : task.worktree with
  | none => simp [bound] at matching
  | some binding => rfl

theorem beginRelocation_move :
    Move (ledger st) .other (ledger (beginSessionRelocation op saves st).2) := by
  unfold beginSessionRelocation
  split
  · split <;> exact Move.idle _
  iterate 2 (split; · exact Move.idle _)
  rename_i fresh
  iterate 2 (split; · exact Move.idle _)
  rename_i task hit
  iterate 3 (split; · exact Move.idle _)
  rename_i passed
  rw [Bool.not_eq_true, Bool.not_eq_false', Bool.and_eq_true, Bool.not_eq_true'] at passed
  obtain ⟨begins,alone⟩ := passed
  simp only [relocationMayBegin, Bool.and_eq_true, beq_iff_eq] at begins
  obtain ⟨⟨⟨⟨⟨⟨-,gen⟩,matching⟩,-⟩,-⟩,-⟩,-⟩ := begins
  have opened : ((st.sessionRelocationOperations ++ [op]).map transferOf).Perm
      (transferOf op :: st.sessionRelocationOperations.map transferOf) :=
    (perm_append_singleton op _).map transferOf
  have known : settledOf (retiringState st op) ⊆ (ledger st).owners :=
    settled_repeats rfl rfl repeats_filter repeats_self repeats_self repeats_self repeats_self
  refine commit_move saves _ (@Move.depart _ (ledger (retiringState st op))
    (transferOf op) ?cur ?bound (relocationConflict_none alone) rfl opened
    (fun _ _ => ⟨rfl,rfl⟩) (unowned (eq_false_of_ne_true fresh)) ?owners)
  case cur => simp [ledger, transferOf, hit, gen]
  case bound =>
    simp [Ledger.bound, ledger, checkoutOf, transferOf, hit, bound_of_matches matching]
  case owners =>
    intro name owned
    rcases mem_owners.mp owned with settled | ⟨entry,held,named⟩ | ⟨transfer,moving,same⟩
    · exact mem_cons_of_mem _ (known settled)
    · have kept : entry ∈ (ledger st).entries := held
      exact mem_cons_of_mem _ (entry_named kept named)
    · rcases mem_cons.mp (opened.subset moving) with new | old
      · rw [← same, new]
        exact mem_cons_self
      · exact mem_cons_of_mem _ (mem_owners.mpr (.inr (.inr ⟨transfer,old,same⟩)))

end Relocation

/-- What a call shows of itself in the ledger. -/
def JournalAction.label : JournalAction → MoveLabel
  | .beginProvisioning operation => .reserve operation.operationId operation.taskId
  | .commitProvisioning taskId _ _ | .completeRepair taskId _ _ => .bind taskId
  | .completeCleanup taskId _ _ | .completeStaleResolution taskId _ _ => .unbind taskId
  | _ => .other

theorem step_move {pre after : CurrentState} {call : Call} (step : Step pre call after) :
    Move (ledger pre) call.action.label (ledger after) := by
  obtain ⟨action,saves,ans⟩ := call
  have left : after = (perform saves pre action).2 := (congrArg Prod.snd step).symm
  rw [left]
  cases action with
  | beginProvisioning op => exact beginProvisioning_move op
  | commitProvisioning => exact commitProvisioningBinding_move
  | beginCleanup op => exact beginCleanup_move op
  | supersedeCleanup previousOperationId replacement => exact supersedeCleanup_move replacement
  | completeCleanup => exact completeCleanup_move
  | beginRepair op => exact beginRepair_move op
  | completeRepair => exact completeRepair_move
  | beginStaleResolution op superseded =>
    exact beginStaleResolution_move op superseded
  | completeStaleResolution => exact completeStaleResolution_move
  | beginRelocation op => exact beginRelocation_move
  | commitRelocation => exact commitRelocation_move
  -- the other calls edit the stage or the failure of one operation, or drop it
  | advanceProvisioning | failProvisioning | retryProvisioning | rollbackProvisioning |
    clearProvisioning =>
    dsimp only [perform, advanceTaskWorktreeProvisioning, failTaskWorktreeProvisioning,
      retryTaskWorktreeProvisioning, recordProvisioningRefRollback, clearTaskWorktreeProvisioning]
    repeat' split
    all_goals first
      | exact Move.idle _
      | exact commit_move saves _ (provisioning_kept (erased _))
      | exact commit_move saves _ (provisioning_kept (edited (by intro; rfl) _))
  | advanceCleanup | failCleanup | retryCleanup | clearCleanup =>
    dsimp only [perform, advanceTaskWorktreeCleanup, failTaskWorktreeCleanup,
      retryTaskWorktreeCleanup, clearTaskWorktreeCleanup]
    repeat' split
    all_goals first
      | exact Move.idle _
      | exact commit_move saves _ (cleanup_kept (erased _))
      | exact commit_move saves _ (cleanup_kept (edited (by intro; rfl) _))
  | advanceRepair | resumeRepair | failRepair | dismissRepair =>
    dsimp only [perform, advanceTaskWorktreeRepair, resumeTaskWorktreeRepairBeforeMutation,
      failTaskWorktreeRepair, dismissTaskWorktreeRepair]
    repeat' split
    all_goals first
      | exact Move.idle _
      | exact commit_move saves _ (repair_kept (erased _))
      | exact commit_move saves _ (repair_kept (edited (by intro; rfl) _))
  | advanceStaleResolution | failStaleResolution | retryStaleResolution |
    verifyAbsentStaleResolution | clearStaleResolution =>
    dsimp only [perform, advanceTaskWorktreeStaleResolution, failTaskWorktreeStaleResolution,
      retryTaskWorktreeStaleResolution, verifyAbsentTaskWorktreeStaleResolution,
      clearTaskWorktreeStaleResolutionBeforeMutation]
    repeat' split
    all_goals first
      | exact Move.idle _
      | exact commit_move saves _ (stale_kept (erased _))
      | exact commit_move saves _ (stale_kept (edited (by intro; rfl) _))
  | markRelocation | failRelocation =>
    dsimp only [perform, markSessionRelocationTargetStarting, failSessionRelocation]
    repeat' split
    all_goals first
      | exact Move.idle _
      | exact commit_move saves _ (settle_move (.refl _) (erased _) (fun _ _ => ⟨rfl,rfl⟩)
          (settled_known rfl))
      | exact commit_move saves _ (settle_move (.refl _) (by apply edited; intro; rfl)
          (fun _ _ => ⟨rfl,rfl⟩) (settled_known rfl))

end TermloopJournals
