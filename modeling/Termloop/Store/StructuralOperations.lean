import Termloop.Store.JournalMoves

/-!
One structural operation per Task. The journals exclude each other by looking into each
other's tables when an operation begins; retries, takeovers and receipts then move records
between the tables. Exclusion is shown on the moves of the ledger, for runs of any length
from any accepted file. Ids stay unique as long as a new provisioning brings an id that no
other operation owns, which its begin does not check.
-/
namespace TermloopJournals
open TermloopRecordLists TermloopOutcome TermloopRuns TermloopStore TermloopReceipts List
  TermloopRelocation

def Apart (related : Entry → Entry → Prop) (ledger : Ledger) : Prop :=
  ledger.entries.Pairwise fun a b => a.taskId = b.taskId → related a b

/-- Every relocation on its way leads to a bound Task that no journal holds. -/
def TransfersClear (ledger : Ledger) : Prop :=
  ∀ transfer ∈ ledger.transfers, ledger.bound transfer.taskId = true
    ∧ ∀ entry ∈ ledger.entries, entry.taskId ≠ transfer.taskId

/-- No id stands for two kinds of operation or two Tasks. That one operation does not follow
    another under its id is said of the calls that begin them. -/
def UniqueIds (ledger : Ledger) : Prop :=
  ∀ id a b, (id, a) ∈ ledger.owners → (id, b) ∈ ledger.owners → a = b

section Moves
variable {before after : Ledger} {label : MoveLabel} {related : Entry → Entry → Prop}

section
variable (symmetric : ∀ a b, related a b → related b a)
include symmetric

theorem apart_perm {entries others : List Entry} (order : entries.Perm others) :
    (entries.Pairwise fun a b => a.taskId = b.taskId → related a b) ↔
      others.Pairwise fun a b => a.taskId = b.taskId → related a b :=
  order.pairwise_iff fun relates same => symmetric _ _ (relates same.symm)

theorem apart_opened (opened : after.entries.Perm (entry :: rest))
    (free : ∀ other ∈ rest, other.taskId ≠ entry.taskId)
    (apart : rest.Pairwise fun a b => a.taskId = b.taskId → related a b) :
    Apart related after := by
  rw [Apart, apart_perm symmetric opened, pairwise_cons]
  refine ⟨?_,apart⟩
  intro other mem same
  exact absurd same.symm (free other mem)

theorem apart_move
    (among : ∀ a b, related a b → a.hold = .provisioning) (move : Move before label after)
    (apart : Apart related before) : Apart related after := by
  cases move with
  | idle => exact apart
  | settle entries => exact List.Pairwise.sublist entries apart
  | reserve hold opened free => exact apart_opened symmetric opened free apart
  | start hold cur opened free => exact apart_opened symmetric opened free apart
  | replace previous same hold cur mem replaced =>
    rw [Apart, apart_perm symmetric mem, pairwise_cons] at apart
    refine apart_opened symmetric replaced ?_ apart.2
    intro other later shared
    exact previous (among _ _ (apart.1 other later (same.symm.trans shared.symm)))
  | depart cur bound free entries =>
    rw [Apart, entries]
    exact apart
  | bind held fenced entries => exact List.Pairwise.sublist entries apart
  | unbind held entries => exact List.Pairwise.sublist entries apart

end

section
variable (move : Move before label after)
include move

/-- What a move may do to a Task: only the holder of an operation on it changes it. -/
theorem task_move (tid : String) : (after.generation tid = before.generation tid ∧
        after.checkout tid = before.checkout tid) ∨
      (∃ holder ∈ before.entries, holder.taskId = tid) ∧
        ((label = .bind tid ∧
            after.generation tid = (before.generation tid).map (· + 1)) ∨
          label = .unbind tid ∧ after.generation tid = before.generation tid) := by
  cases move with
  | idle => exact .inl ⟨rfl,rfl⟩
  | settle _ _ tasks => exact .inl (tasks tid id)
  | reserve _ _ _ _ _ tasks => exact .inl (tasks tid id)
  | start _ _ _ _ _ _ tasks => exact .inl (tasks tid id)
  | replace _ _ _ _ _ _ _ tasks => exact .inl (tasks tid id)
  | depart _ _ _ _ _ tasks => exact .inl (tasks tid id)
  | @bind _ holder held _ _ _ raised _ tasks =>
    by_cases same : tid = holder.taskId
    · subst same
      exact .inr ⟨⟨holder,held,rfl⟩,.inl ⟨rfl,raised⟩⟩
    · exact .inl (tasks tid same)
  | @unbind _ holder held _ _ unchanged tasks =>
    by_cases same : tid = holder.taskId
    · subst same
      exact .inr ⟨⟨holder,held,rfl⟩,.inr ⟨rfl,unchanged⟩⟩
    · exact .inl (tasks tid same)

/-- An operation that a move adds is a reservation of an unbound Task or is made for the
    Task's generation, away from transfers or in an old one's place. -/
theorem entry_move (mem : entry ∈ after.entries) :
    entry ∈ before.entries ∨ (entry.hold = .provisioning ∧ before.bound entry.taskId = false)
      ∨ (∃ gen, entry.hold.generation? = some gen ∧ before.generation entry.taskId = some gen)
        ∧ ((∀ transfer ∈ after.transfers, transfer.taskId ≠ entry.taskId)
          ∨ ∃ old ∈ before.entries, old.taskId = entry.taskId) := by
  cases move with
  | idle => exact .inl mem
  | settle entries => exact .inl (entries.subset mem)
  | reserve hold opened _ unbound =>
    rcases mem_cons.mp (opened.subset mem) with rfl | old
    · exact .inr (.inl ⟨hold,unbound⟩)
    · exact .inl old
  | start hold cur opened _ still transfers =>
    rcases mem_cons.mp (opened.subset mem) with rfl | old
    · exact .inr (.inr ⟨⟨_,hold,cur⟩,.inl (transfers ▸ still)⟩)
    · exact .inl old
  | replace _ same hold cur whole replaced =>
    rcases mem_cons.mp (replaced.subset mem) with rfl | old
    · exact .inr (.inr ⟨⟨_,hold,cur⟩,.inr ⟨_,whole.symm.subset mem_cons_self,same.symm⟩⟩)
    · exact .inl (whole.symm.subset (mem_cons_of_mem _ old))
  | depart _ _ _ entries => exact .inl (entries ▸ mem)
  | bind _ _ entries => exact .inl (entries.subset mem)
  | unbind _ entries => exact .inl (entries.subset mem)

theorem transfer_move (moving : transfer ∈ after.transfers) :
    transfer ∈ before.transfers ∨ before.generation transfer.taskId = some transfer.generation
        ∧ before.bound transfer.taskId
        ∧ ∀ entry ∈ before.entries, entry.taskId ≠ transfer.taskId := by
  cases move with
  | idle => exact .inl moving
  | settle _ kept => exact .inl (kept.subset moving)
  | reserve _ _ _ _ kept => exact .inl (kept ▸ moving)
  | start _ _ _ _ _ kept => exact .inl (kept ▸ moving)
  | replace _ _ _ _ _ _ kept => exact .inl (kept ▸ moving)
  | depart cur bound free _ opened =>
    rcases mem_cons.mp (opened.subset moving) with rfl | old
    · exact .inr ⟨cur,bound,free⟩
    · exact .inl old
  | bind _ _ _ kept => exact .inl (kept ▸ moving)
  | unbind _ _ kept => exact .inl (kept ▸ moving)

theorem transfersClear_move (clear : TransfersClear before) : TransfersClear after := by
  intro transfer moving
  obtain ⟨bound,free⟩ : before.bound transfer.taskId
      ∧ ∀ entry ∈ before.entries, entry.taskId ≠ transfer.taskId :=
    (transfer_move move moving).elim (clear transfer) (·.2)
  refine ⟨?_,fun entry held same => ?_⟩
  · rcases task_move move transfer.taskId with ⟨-,still⟩ | ⟨⟨holder,held,own⟩,-⟩
    · exact (congrArg (·.worktree.isSome) still).trans bound
    · exact absurd own (free holder held)
  · rcases entry_move move held with old | ⟨-,unbound⟩ | ⟨-,still | ⟨other,old,own⟩⟩
    · exact free entry old same
    -- the Task of a relocation is bound, the one of a reservation is not
    · rw [← same, unbound] at bound
      cases bound
    · exact still transfer moving same.symm
    · exact free other old (own.trans same)

end

theorem uniqueIds_added (unique : UniqueIds before) (owners : after.owners ⊆ name :: before.owners)
    (only : ∀ owner, (name.1, owner) ∈ before.owners → owner = name.2) : UniqueIds after := by
  intro id a b left right
  rcases mem_cons.mp (owners left) with newLeft | oldLeft
  · rcases mem_cons.mp (owners right) with newRight | oldRight
    · exact congrArg Prod.snd (newLeft.trans newRight.symm)
    · rw [← newLeft] at only
      exact (only b oldRight).symm
  · rcases mem_cons.mp (owners right) with newRight | oldRight
    · rw [← newRight] at only
      exact only a oldLeft
    · exact unique id a b oldLeft oldRight

def Unclaimed (ledger : Ledger) : MoveLabel → Prop
  | .reserve operationId _ => ∀ owner, (operationId, owner) ∉ ledger.owners
  | _ => True

theorem uniqueIds_move (move : Move before label after) (unclaimed : Unclaimed before label)
    (unique : UniqueIds before) : UniqueIds after := by
  cases move with
  | idle => exact unique
  | settle _ _ _ owners =>
    exact fun id a b left right => unique id a b (owners left) (owners right)
  | reserve _ _ _ _ _ _ owners =>
    exact uniqueIds_added unique owners fun owner known => absurd known (unclaimed owner)
  | start _ _ _ _ _ _ _ fresh owners =>
    exact uniqueIds_added unique owners fun owner known => absurd known (fresh owner)
  | replace _ _ _ _ _ _ _ _ fresh owners =>
    exact uniqueIds_added unique owners fun owner known => absurd known (fresh owner)
  | depart _ _ _ _ _ _ fresh owners =>
    exact uniqueIds_added unique owners fun owner known => absurd known (fresh owner)
  | bind _ _ _ _ _ _ _ owners =>
    exact fun id a b left right => unique id a b (owners left) (owners right)
  | unbind _ _ _ _ _ owners =>
    exact fun id a b left right => unique id a b (owners left) (owners right)

end Moves

section Accepted
variable {st : CurrentState}

theorem hasDuplicates_eq_false {values : List String} :
    hasDuplicates values = false ↔ values.Nodup := by
  have split : ∀ (value : String) (later : List String),
      (later.any fun other => other == value) = false ↔ True ∧ ∀ other ∈ later, value ≠ other := by
    intro value later
    rw [any_eq_false]
    constructor
    · intro absent
      exact ⟨trivial,fun other mem same =>
        absent other mem (beq_iff_eq.mpr same.symm)⟩
    · intro apart other mem same
      exact apart.2 other mem (beq_iff_eq.mp same).symm
  rw [hasDuplicates, anyWithLater_eq_false split]
  simp [List.Nodup]

/-- Journals that an accepted file has checked against each other. -/
structure JournalsDisjoint (state : CurrentState) : Prop where
  cleanups : (state.cleanupOperations.map (·.taskId)).Nodup
  repairs : (state.repairOperations.map (·.taskId)).Nodup
  stales : (state.staleResolutionOperations.map (·.taskId)).Nodup
  repairCleanup : ∀ repair ∈ state.repairOperations, ∀ cleanup ∈ state.cleanupOperations,
    cleanup.taskId ≠ repair.taskId
  repairProvisioning : ∀ repair ∈ state.repairOperations,
    ∀ current ∈ state.provisioningOperations, current.taskId ≠ repair.taskId
  cleanupProvisioning : ∀ cleanup ∈ state.cleanupOperations,
    ∀ current ∈ state.provisioningOperations, current.taskId ≠ cleanup.taskId
  staleProvisioning : ∀ stale ∈ state.staleResolutionOperations,
    ∀ current ∈ state.provisioningOperations, current.taskId ≠ stale.taskId
  staleCleanup : ∀ stale ∈ state.staleResolutionOperations,
    ∀ current ∈ state.cleanupOperations, current.taskId ≠ stale.taskId
  staleRepair : ∀ stale ∈ state.staleResolutionOperations,
    ∀ current ∈ state.repairOperations, current.taskId ≠ stale.taskId

theorem journalsDisjoint_of_accepted (accepted : Accepted st) : JournalsDisjoint st := by
  have records := ((accepted_iff st).mp accepted).2.2.2.2
  simp only [worktreeRecordsAreInvalid, Bool.or_eq_false_iff, hasDuplicates_eq_false,
    any_eq_false, Bool.or_eq_true, any_eq_true, beq_iff_eq, not_or, not_exists,
    not_and] at records
  obtain ⟨⟨⟨⟨⟨⟨⟨⟨⟨⟨⟨⟨⟨⟨⟨-,cleanups⟩,-⟩,stales⟩,-⟩,repairs⟩,-⟩,repair⟩,cleanup⟩,stale⟩,
    -⟩,-⟩,-⟩,-⟩,-⟩,-⟩ := records
  exact ⟨cleanups,repairs,stales,fun op mem => (repair op mem).1,fun op mem => (repair op mem).2,
    cleanup,fun op mem => (stale op mem).1.1,fun op mem => (stale op mem).1.2,
    fun op mem => (stale op mem).2⟩

theorem table_apart {related : Entry → Entry → Prop} {entry : α → Entry}
    {records : List α} (nodup : (records.map fun record => (entry record).taskId).Nodup) :
    (records.map entry).Pairwise fun a b => a.taskId = b.taskId → related a b := by
  rw [pairwise_map]
  exact (pairwise_map.mp nodup).imp fun apart same => absurd same apart

theorem apart_of_accepted {related : Entry → Entry → Prop} (accepted : Accepted st)
    (provisioning : (st.provisioningOperations.map provisioningEntry).Pairwise fun a b =>
      a.taskId = b.taskId → related a b) :
    Apart related (ledger st) := by
  have disjoint := journalsDisjoint_of_accepted accepted
  simp only [Apart, ledger, entriesOf, pairwise_append, mem_append, mem_map]
  refine ⟨⟨⟨provisioning,table_apart disjoint.cleanups,?cleanup⟩,
    table_apart disjoint.repairs,?repair⟩,table_apart disjoint.stales,?stale⟩
  case cleanup =>
    rintro _ ⟨cur,first,rfl⟩ _ ⟨op,mem,rfl⟩ same
    exact absurd same (disjoint.cleanupProvisioning op mem cur first)
  case repair =>
    rintro _ (⟨cur,first,rfl⟩ | ⟨cur,first,rfl⟩) _ ⟨op,mem,rfl⟩ same
    · exact absurd same (disjoint.repairProvisioning op mem cur first)
    · exact absurd same (disjoint.repairCleanup op mem cur first)
  case stale =>
    rintro _ ((⟨cur,first,rfl⟩ | ⟨cur,first,rfl⟩) | ⟨cur,first,rfl⟩) _ ⟨op,mem,rfl⟩ same
    · exact absurd same (disjoint.staleProvisioning op mem cur first)
    · exact absurd same (disjoint.staleCleanup op mem cur first)
    · exact absurd same (disjoint.staleRepair op mem cur first)

theorem transfersClear_of_accepted (accepted : Accepted st) : TransfersClear (ledger st) := by
  have records := ((accepted_iff st).mp accepted).2.2.2.1
  simp only [relocationRecordsAreInvalid, Bool.or_eq_false_iff] at records
  obtain ⟨valid,-⟩ := (invalidRelocationOperation_eq_false st).mp records.1
  intro transfer moving
  obtain ⟨op,mem,rfl⟩ := mem_map.mp moving
  have passed := valid op mem
  simp only [relocationOperationIsInvalid, relocationCheckFails, Bool.or_eq_false_iff,
    Option.all_eq_false, any_eq_false, beq_iff_eq] at passed
  obtain ⟨⟨⟨⟨⟨⟨⟨⟨-,task⟩,-⟩,-⟩,-⟩,provisioning⟩,cleanup⟩,repair⟩,stale⟩ := passed
  obtain ⟨task,hit,-,binding,bound,-⟩ := task
  refine ⟨?_,entries_free provisioning cleanup repair stale⟩
  simp [Ledger.bound, ledger, checkoutOf, transferOf, hit, bound]

end Accepted

def holders (state : CurrentState) : List String :=
  state.provisioningOperations.map (·.taskId) ++ state.cleanupOperations.map (·.taskId)
    ++ state.repairOperations.map (·.taskId) ++ state.staleResolutionOperations.map (·.taskId)

theorem holders_eq : holders st = (ledger st).entries.map (·.taskId) := by
  simp only [holders, ledger, entriesOf, map_append, map_map]
  rfl

theorem holders_nodup_iff : (holders st).Nodup ↔ Apart (fun _ _ => False) (ledger st) := by
  rw [holders_eq, List.Nodup, pairwise_map]
  rfl

section Begins
variable {after : CurrentState} {call : Call} {id : String}

/-- The id under which a call would begin an operation. -/
def JournalAction.begins? : JournalAction → Option String
  | .beginProvisioning operation => some operation.operationId
  | .beginCleanup operation | .supersedeCleanup _ operation => some operation.operationId
  | .beginRepair operation => some operation.operationId
  | .beginStaleResolution operation _ => some operation.operationId
  | .beginRelocation operation => some operation.operationId
  | _ => none

/-- The check that the begin of a provisioning leaves out: its id is one of the provisionings'
    own, under which nothing is begun, or no record has it. -/
def CallUnclaimed (state : CurrentState) (call : Call) : Prop :=
  match call.action with
  | .beginProvisioning operation =>
    operationIdOwnedByProvisioning state operation.operationId = true ∨
      operationIdOwnedAnywhere state operation.operationId = false
  | _ => True

theorem provisioning_known {op : WorktreeProvisioningOperation}
    (owned : operationIdOwnedByProvisioning st op.operationId) :
    (beginTaskWorktreeProvisioning op saves st).2 = st := by
  simp only [operationIdOwnedByProvisioning, Bool.or_eq_true, any_eq_true, beq_iff_eq] at owned
  unfold beginTaskWorktreeProvisioning
  repeat' split
  all_goals first
    | rfl
    | skip
  rename_i unproven alike _ first _ _ _
  rcases owned with ⟨cur,mem,same⟩ | ⟨proof,mem,same⟩
  · have other := find?_none first cur mem
    exact absurd (any_eq_true.mpr ⟨cur,mem,by simp [same, other]⟩) alike
  · exact absurd same (find?_none unproven proof mem)

theorem begins_fresh (begins : call.action.begins? = some id) (unclaimed : CallUnclaimed st call)
    (step : Step st call after) :
    after = st ∨ operationIdOwnedAnywhere st id = false := by
  obtain ⟨action,saves,ans⟩ := call
  have left : after = (perform saves st action).2 := (congrArg Prod.snd step).symm
  rw [left]
  cases action with
  | beginProvisioning op =>
    cases begins
    exact unclaimed.imp_left provisioning_known
  | beginCleanup op | supersedeCleanup _ op | beginRepair op | beginStaleResolution op
  | beginRelocation op =>
    cases begins
    dsimp only [perform, settled, beginTaskWorktreeCleanup, supersedeFailedTaskWorktreeCleanup,
      beginTaskWorktreeRepair, beginTaskWorktreeStaleResolution, beginSessionRelocation]
    repeat' split
    all_goals first
      | exact .inl rfl
      | exact .inr (eq_false_of_ne_true (by assumption))
  | _ => cases begins

theorem uniqueIds_step (unique : UniqueIds (ledger st)) (unclaimed : CallUnclaimed st call)
    (step : Step st call after) : UniqueIds (ledger after) := by
  by_cases same : after = st
  · exact same ▸ unique
  refine uniqueIds_move (step_move step) ?_ unique
  have fresh id (begins : call.action.begins? = some id) :=
    (begins_fresh begins unclaimed step).resolve_left same
  obtain ⟨action,saves,ans⟩ := call
  cases action with
  | beginProvisioning op => exact unowned (fresh _ rfl)
  | _ => trivial

end Begins

/-- From an accepted file with one provisioning a Task, every reached state has one
    operation a Task, none beside a relocation to it. Where new provisionings bring unclaimed
    ids, ids stay unique and none is given to another operation while a record has it. -/
theorem one_structural_operation {start state : CurrentState} {calls : List Call}
    (accepted : Accepted start) (single : (start.provisioningOperations.map (·.taskId)).Nodup)
    (run : Run Step start calls state) :
    (holders state).Nodup ∧ (∀ operation ∈ state.sessionRelocationOperations,
        operation.targetTaskId ∉ holders state)
      ∧ (UniqueIds (ledger start) → Run (Guarded CallUnclaimed Step) start calls state →
        UniqueIds (ledger state) ∧ ∀ call after id, Guarded CallUnclaimed Step state call after →
          call.action.begins? = some id →
            after = state ∨ operationIdOwnedAnywhere state id = false) := by
  refine ⟨?_,?_,fun unique guarded => ⟨?_,?_⟩⟩
  · have apart := run_invariant (fun state => Apart (fun _ _ => False) (ledger state))
      (fun apart step => apart_move (fun _ _ never => never) (fun _ _ never => never.elim)
        (step_move step) apart) run (apart_of_accepted accepted (table_apart single))
    exact (holders_nodup_iff).mpr apart
  · intro operation listed held
    have clear := run_invariant (fun state => TransfersClear (ledger state))
      (fun clear step => transfersClear_move (step_move step) clear) run
      (transfersClear_of_accepted accepted)
    rw [holders_eq] at held
    obtain ⟨entry,present,same⟩ := mem_map.mp held
    exact (clear _ (transfer_moving listed)).2 entry present same
  · exact guarded_run_invariant (fun state => UniqueIds (ledger state)) uniqueIds_step guarded
      unique
  · exact fun call after id step begins => begins_fresh begins step.1 step.2

def twoTasks : CurrentState :=
  { movingState with
    tasks := movingState.tasks ++ [{ id := "fresh", projectId := "project", status := .opened
                                     worktreeGeneration := 0, updatedAt := 1 }]
    sessions := [{ movingAgent with lifecycleState := "running" }]
    sessionRelocationOperations := [] }

def relocationToTask : SessionRelocationOperation :=
  { movingOperation with operationId := "shared", stage := .sourceRetiring }

def provisioningOfFresh : WorktreeProvisioningOperation :=
  { operationId := "shared", taskId := "fresh", projectId := "project"
    spec := { checkoutSpec with destinationPath := "/trees/fresh", branchName := "fresh" }
    stage := .reserved, createdBranchRef := false, startedAt := 2, updatedAt := 2 }

def relocationBegun : CurrentState := (perform true twoTasks (.beginRelocation relocationToTask)).2

def provisioningBegun : CurrentState :=
  (perform true relocationBegun (.beginProvisioning provisioningOfFresh)).2

theorem twoTasks_accepted : Accepted twoTasks := rfl

theorem relocation_begins :
    Step twoTasks ⟨.beginRelocation relocationToTask, true, .ok ()⟩ relocationBegun := rfl

theorem twoTasks_unique : UniqueIds (ledger twoTasks) := by
  intro id a b left right
  have single : (ledger twoTasks).owners = [("provision", .provisioning "task")] := rfl
  rw [single, mem_singleton] at left right
  exact congrArg Prod.snd (left.trans right.symm)

def ownProvisioning : JournalAction :=
  .beginProvisioning { provisioningOfFresh with operationId := "own" }

def bothBegun : CurrentState := (perform true relocationBegun ownProvisioning).2

theorem fresh_provisioning_holds_alone : holders bothBegun = ["fresh"]
      ∧ bothBegun.sessionRelocationOperations.map (·.targetTaskId) = ["task"]
      ∧ (∀ operation ∈ bothBegun.sessionRelocationOperations,
        operation.targetTaskId ∉ holders bothBegun)
      ∧ UniqueIds (ledger bothBegun)
      ∧ ∀ call after id, Guarded CallUnclaimed Step bothBegun call after →
          call.action.begins? = some id →
            after = bothBegun ∨ operationIdOwnedAnywhere bothBegun id = false := by
  have provisions : Step relocationBegun ⟨ownProvisioning,true,.ok ()⟩ bothBegun := rfl
  have guarded : Run (Guarded CallUnclaimed Step) twoTasks
      [⟨.beginRelocation relocationToTask,true,.ok ()⟩, ⟨ownProvisioning,true,.ok ()⟩]
      bothBegun :=
    Run.cons ⟨trivial,relocation_begins⟩ (run_single ⟨.inr rfl,provisions⟩)
  obtain ⟨-,clear,ids⟩ := one_structural_operation twoTasks_accepted nodup_nil
    (Run.cons relocation_begins (run_single provisions))
  exact ⟨rfl,rfl,clear,ids twoTasks_unique guarded⟩

/-- A provisioning is accepted under the id of a relocation that is on its way. -/
theorem provisioning_takes_relocation_id : Accepted twoTasks ∧ UniqueIds (ledger twoTasks)
      ∧ Run Step twoTasks [⟨.beginRelocation relocationToTask, true, .ok ()⟩,
        ⟨.beginProvisioning provisioningOfFresh, true, .ok ()⟩] provisioningBegun
      ∧ ¬ UniqueIds (ledger provisioningBegun) := by
  have provisions : Step relocationBegun
      ⟨.beginProvisioning provisioningOfFresh,true,.ok ()⟩ provisioningBegun := rfl
  refine ⟨twoTasks_accepted,twoTasks_unique,Run.cons relocation_begins (run_single provisions),?_⟩
  intro unique
  have moving : ("shared", Owner.relocation "agent") ∈ (ledger provisioningBegun).owners := by
    decide
  have made : ("shared", Owner.provisioning "fresh") ∈ (ledger provisioningBegun).owners := by
    decide
  cases unique _ _ _ moving made

end TermloopJournals
