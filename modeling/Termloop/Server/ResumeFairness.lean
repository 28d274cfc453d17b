import Termloop.Server.ResumeGate

/-!
The resume gate under any sequence of messages, also a Release that nobody owes. Waiters
may be dropped and `stopped` may be set between any two steps of the task. `granted` and
`finished` only grow here: they are the grants and the signals in their order.
-/
namespace TermloopResumeFairness
open TermloopRuns TermloopResume List

inductive GateAction where
  | acquire (projectId : String)
  | release
  | shutdown (done : Nat)
  | drop (call : ResumeCall)
  | stop | turn | rest

def receive (system : Resuming) (command : ResumeGateCommand) : Option Resuming :=
  if system.busy then none else some ({ system with busy := true }.handle command)

def serve (maxActive : Nat) (system : Resuming) : GateAction → Option Resuming
  | .acquire projectId =>
    -- Calls are numbered in the order in which their messages arrive.
    let ready : ResumeCall := ⟨system.nextId,projectId⟩
    receive { system with nextId := system.nextId + 1, waiting := system.waiting ++ [ready] }
      (.acquire ready)
  | .release => receive system .release
  | .shutdown done => receive system (.shutdown done)
  | .drop call => some { system with waiting := system.waiting.erase call }
  | .stop => some { system with stopped := true }
  | .turn => system.perform maxActive 0 .turn
  | .rest => system.perform maxActive 0 .rest

def Serves (maxActive : Nat) : Resuming → GateAction → Resuming → Prop := Takes (serve maxActive)

section Steps
variable {most : Nat} {sys after : Resuming} {gate popped : ResumeGate}

theorem queueOf_enqueue : queueOf (gate.enqueue ready) pid =
      queueOf gate pid ++ if pid = ready.projectId then [ready] else [] := by
  split
  · next mine =>
    subst mine
    simp [queueOf, ResumeGate.enqueue]
  · next apart => simp [queueOf, ResumeGate.enqueue, AList.lookup_insert_ne apart]

theorem received (step : receive sys command = some after) :
    sys.busy = false ∧ { sys with busy := true }.handle command = after := by
  simpa [receive] using step

/-- What every step but a turn leaves. -/
structure Apart (system : Resuming) (action : GateAction) (after : Resuming) : Prop where
  granted : after.granted = system.granted
  line : system.gate.projects <+: after.gate.projects ∨ after.gate.queues = ∅
  stopped : system.stopped = true → after.stopped = true
  signals : (action = .rest → system.gate.active ≠ 0) → after.finished = system.finished ∧
    system.gate.shutdownWaiters ⊆ after.gate.shutdownWaiters

theorem apart_of_same (granted : after.granted = sys.granted)
    (line : after.gate.projects = sys.gate.projects) (stopped : sys.stopped → after.stopped)
    (finished : after.finished = sys.finished)
    (waiters : after.gate.shutdownWaiters = sys.gate.shutdownWaiters) :
    Apart sys action after :=
  ⟨granted,.inl (line ▸ prefix_rfl),stopped,fun _ => ⟨finished,by simp [waiters]⟩⟩

theorem serve_apart (step : Serves most sys action after)
    (apart : action ≠ .turn) : Apart sys action after := by
  cases action with
  | acquire pid =>
    obtain ⟨-,rfl⟩ := received step
    simp only [Resuming.handle]
    split
    · exact apart_of_same rfl rfl id rfl rfl
    · refine ⟨rfl,.inl ?_,id,fun _ => ⟨rfl,List.Subset.refl _⟩⟩
      simp only [ResumeGate.enqueue]
      split
      · exact prefix_rfl
      · exact prefix_append _ _
  | release =>
    obtain ⟨-,rfl⟩ := received step
    simp only [Resuming.handle]
    split
    · exact apart_of_same rfl rfl id rfl rfl
    · exact apart_of_same rfl rfl id rfl rfl
  | shutdown done =>
    obtain ⟨-,rfl⟩ := received step
    exact ⟨rfl,.inr rfl,fun _ => rfl,fun _ => ⟨rfl,subset_append_left _ _⟩⟩
  | drop call =>
    cases step
    exact apart_of_same rfl rfl id rfl rfl
  | stop =>
    cases step
    exact apart_of_same rfl rfl (fun _ => rfl) rfl rfl
  | turn => exact absurd rfl apart
  | rest =>
    obtain ⟨-,⟨-,idle,rfl⟩ | ⟨-,rfl⟩⟩ := @rest_cases _ 0 _ _ step
    · exact ⟨rfl,.inl prefix_rfl,id,fun busy => absurd idle (busy rfl)⟩
    · exact apart_of_same rfl rfl id rfl rfl

end Steps

section Invariant
variable {most : Nat} {sys after : Resuming} {gate popped : ResumeGate}

structure Shape (gate : ResumeGate) : Prop where
  lined : Lined gate
  once : gate.projects.Nodup
  owned : ∀ projectId, ∀ call ∈ queueOf gate projectId, call.projectId = projectId

theorem shape_enqueue (shape : Shape gate) : Shape (gate.enqueue ready) := by
  refine ⟨lined_enqueue shape.lined ready,?_,?_⟩
  · simp only [ResumeGate.enqueue]
    split
    · exact shape.once
    · next absent => exact concat_eq_append ▸ shape.once.concat absent
  · intro pid call here
    rw [queueOf_enqueue] at here
    rcases mem_append.mp here with old | new
    · exact shape.owned pid call old
    · split at new
      · next mine => rw [mem_singleton.mp new, mine]
      · cases new

theorem pop_queueOf (taken : gate.pop = some (ready, popped))
    : (queueOf popped pid).Sublist (queueOf gate pid) := by
  obtain ⟨first,rest,-,-,queue,-,others⟩ := pop_effect taken
  by_cases mine : pid = first
  · subst mine
    rw [queue]
    exact sublist_append_right _ _
  · simp [queueOf, others pid mine]

theorem shape_pop (shape : Shape gate)
    (taken : gate.pop = some (ready, popped)) : Shape popped := by
  refine ⟨lined_pop shape.lined taken,?_,?_⟩
  · obtain ⟨first,rest,front,moved,-⟩ := pop_effect taken
    have once := shape.once
    rw [front] at once
    rcases moved with ⟨gone,-⟩ | back
    · exact gone ▸ once.of_cons
    · exact back ▸ (perm_append_singleton first rest).nodup_iff.mpr once
  · intro pid call here
    exact shape.owned pid call ((pop_queueOf taken).subset here)

/-- The calls of a Project that were granted, and behind them those that are queued. -/
def line (system : Resuming) (projectId : String) : List ResumeCall :=
  system.granted.filter (·.projectId = projectId) ++ queueOf system.gate projectId

structure Fair (maxActive : Nat) (system : Resuming) : Prop where
  shape : Shape system.gate
  bound : system.gate.active ≤ maxActive
  drained : system.busy = false → system.stopped = false → system.gate.active < maxActive →
    system.gate.projects = []
  ordered : ∀ projectId, ((line system projectId).map (·.id) ++ [system.nextId]).Pairwise (· < ·)

theorem start_fair : Fair most .start :=
  ⟨⟨nofun,nodup_nil,nofun⟩,Nat.zero_le _,fun _ _ _ => rfl, fun _ => pairwise_singleton _ _⟩

theorem ordered_of_sublist {earlier later : List ResumeCall} {id next : Nat}
    (ordered : (earlier.map (·.id) ++ [id]).Pairwise (· < ·)) (fewer : later.Sublist earlier)
    (more : id ≤ next) : (later.map (·.id) ++ [next]).Pairwise (· < ·) := by
  simp only [pairwise_append, mem_singleton, forall_eq] at ordered ⊢
  refine ⟨ordered.1.sublist (fewer.map _),pairwise_singleton _ _,?_⟩
  intro number here
  exact Nat.lt_of_lt_of_le (ordered.2.2 number ((fewer.map _).subset here)) more

theorem ordered_snoc {ready : ResumeCall}
    (ordered : (calls.map (·.id) ++ [ready.id]).Pairwise (· < ·)) :
    ((calls ++ [ready]).map (·.id) ++ [ready.id + 1]).Pairwise (· < ·) := by
  have below := (pairwise_append.mp ordered).2.2
  rw [map_append]
  refine pairwise_append.mpr ⟨ordered,pairwise_singleton _ _,?_⟩
  intro number here last there
  rw [mem_singleton.mp there]
  rcases mem_append.mp here with old | new
  · exact Nat.lt_succ_of_lt (below number old _ mem_cons_self)
  · rw [mem_singleton.mp new]
    exact Nat.lt_succ_self _

theorem turn_fair (inv : Fair most sys)
    (step : sys.perform most 0 .turn = some after) : Fair most after := by
  obtain ⟨busy,-,free,ready,gate,taken,granted⟩ := turn_cases step
  have shape := shape_pop inv.shape taken
  have active : gate.active = sys.gate.active := (pop_queued taken).2.1
  rcases granted with ⟨call,-,rfl,rfl⟩ | ⟨-,rfl⟩
  · refine ⟨⟨shape.lined,shape.once,shape.owned⟩,?_,fun idle => ?_,fun pid => ?_⟩
    · dsimp only
      omega
    · simp [busy] at idle
    · refine ordered_of_sublist (inv.ordered pid) ?_ (Nat.le_refl _)
      obtain ⟨first,rest,-,-,queue,-,others⟩ := pop_effect taken
      have mine := inv.shape.owned first call (by simp [queue])
      have same : queueOf { gate with active := gate.active + 1 } pid = queueOf gate pid := rfl
      simp only [line, filter_append, same]
      by_cases own : pid = first
      · subst own
        simp [queue, mine]
      · simp [queueOf, others pid own, mine, Ne.symm own]
  · refine ⟨shape,?_,fun idle => ?_,fun pid => ?_⟩
    · dsimp only
      omega
    · simp [busy] at idle
    · exact ordered_of_sublist (inv.ordered pid) ((pop_queueOf taken).append_left _) (Nat.le_refl _)

theorem step_fair {action : GateAction} (inv : Fair most sys)
    (step : Serves most sys action after) : Fair most after := by
  have bound := inv.bound
  have later := fun pid => ordered_of_sublist (inv.ordered pid) (.refl _) (Nat.le_succ _)
  cases action with
  | acquire pid =>
    obtain ⟨-,rfl⟩ := received step
    simp only [Resuming.handle]
    split
    · exact ⟨inv.shape,bound,by simp,later⟩
    · refine ⟨shape_enqueue inv.shape,bound,by simp,fun other => ?_⟩
      simp only [line, queueOf_enqueue]
      split
      · rw [← append_assoc]
        exact ordered_snoc (inv.ordered other)
      · simpa [line] using later other
  | release =>
    obtain ⟨-,rfl⟩ := received step
    simp only [Resuming.handle]
    split
    · exact ⟨⟨inv.shape.lined,inv.shape.once,inv.shape.owned⟩,
        Nat.le_trans (Nat.sub_le _ _) bound,by simp,inv.ordered⟩
    · exact ⟨inv.shape,bound,by simp,inv.ordered⟩
  | shutdown done =>
    obtain ⟨-,rfl⟩ := received step
    have empty := (@start_fair 0).shape
    refine ⟨⟨empty.lined,nodup_nil,empty.owned⟩,bound,(by cases ·),fun pid => ?_⟩
    exact ordered_of_sublist (inv.ordered pid) (List.Sublist.append_left
      (nil_sublist _) _) (Nat.le_refl _)
  | drop call =>
    cases step
    exact ⟨inv.shape,bound,inv.drained,inv.ordered⟩
  | stop =>
    cases step
    exact ⟨inv.shape,bound,by simp,inv.ordered⟩
  | turn => exact turn_fair inv step
  | rest =>
    obtain ⟨drained,⟨-,-,rfl⟩ | ⟨-,rfl⟩⟩ := @rest_cases _ 0 _ _ step
    · exact ⟨⟨inv.shape.lined,inv.shape.once,inv.shape.owned⟩,bound,fun _ => drained,inv.ordered⟩
    · exact ⟨inv.shape,bound,fun _ => drained,inv.ordered⟩

theorem granted_in_order (inv : Fair most sys) : sys.granted.Pairwise fun first later =>
      first.projectId = later.projectId → first.id < later.id := by
  rw [pairwise_iff_forall_sublist]
  intro first later both same
  have mine := both.filter (·.projectId = later.projectId)
  simp only [same, decide_true, filter_cons_of_pos, filter_nil] at mine
  have ordered := (pairwise_append.mp (inv.ordered later.projectId)).1
  have pair := ordered.sublist ((mine.trans (sublist_append_left _ _)).map _)
  simpa using pair

end Invariant

section Turns
variable {most : Nat} {sys after : Resuming} {other pid : String}

/-- The Project has a queue, and nobody in it was dropped. -/
def Waits (projectId : String) (system : Resuming) : Prop :=
  queueOf system.gate projectId ≠ [] ∧
    ∀ call ∈ queueOf system.gate projectId, call ∈ system.waiting

def Grants (maxActive : Nat) (system : Resuming) (call : ResumeCall) (after : Resuming) : Prop :=
  ∃ action, Serves maxActive system action after ∧ after.granted = system.granted ++ [call]

/-- Between two grants of one Project, each other Project that waited all the time has a grant. -/
def ServesInTurn (maxActive : Nat) (system : Resuming) : Prop :=
  ∀ first granted actions before later after other, Grants maxActive system first granted →
    Run (Guarded (fun state _ => Waits other state) (Serves maxActive)) granted actions before →
    Waits other before → Grants maxActive before later after →
    later.projectId = first.projectId → other ≠ first.projectId →
      ∃ call ∈ before.granted.drop granted.granted.length, call.projectId = other

/-- One Project stands in line before every place of another one. -/
def Ahead (other projectId : String) (projects : List String) : Prop :=
  ∃ front behind, projects = front ++ other :: behind ∧ projectId ∉ front

theorem ahead_append (ahead : Ahead other pid projects) : Ahead other pid (projects ++ more) := by
  obtain ⟨front,behind,rfl,absent⟩ := ahead
  exact ⟨front,behind ++ more,by simp,absent⟩

theorem ahead_cons (ahead : Ahead other pid (first :: rest)) (apart : first ≠ other) :
    first ≠ pid ∧ Ahead other pid rest := by
  obtain ⟨front,behind,split,absent⟩ := ahead
  cases front with
  | nil => exact absurd (List.cons.inj split).1 apart
  | cons head front =>
    obtain ⟨rfl,rest_split⟩ := List.cons.inj split
    simp only [mem_cons, not_or] at absent
    exact ⟨Ne.symm absent.1,front,behind,rest_split,absent.2⟩

variable (inv : Fair most sys)
include inv

theorem waits_listed (waits : Waits other sys) : other ∈ sys.gate.projects := by
  apply inv.shape.lined
  by_contra missing
  simp only [Option.not_isSome_iff_eq_none] at missing
  exact waits.1 (by simp [queueOf, missing])

/-- A turn is the turn of the Project in front, which a live queue makes a grant. -/
theorem turn_effect (step : Serves most sys .turn after) :
    ∃ first rest more, sys.gate.projects = first :: rest ∧
      (after.gate.projects = rest ∨ after.gate.projects = rest ++ [first]) ∧
      after.granted = sys.granted ++ more ∧ (∀ call ∈ more, call.projectId = first) ∧
      (Waits first sys → more ≠ []) := by
  obtain ⟨-,-,-,ready,gate,popped,granted⟩ := @turn_cases _ 0 _ _ step
  obtain ⟨first,rest,front,moved,queue,empty,-⟩ := pop_effect popped
  refine ⟨first,rest,?_⟩
  rcases granted with ⟨call,-,rfl,rfl⟩ | ⟨dead,rfl⟩
  · refine ⟨[call],front,moved.imp_left And.left,rfl,?_,fun _ => cons_ne_nil _ _⟩
    simpa using inv.shape.owned first call (by simp [queue])
  · refine ⟨[],front,moved.imp_left And.left,by simp,nofun,fun waits => ?_⟩
    cases ready with
    | none => exact absurd (empty rfl) waits.1
    | some call => exact absurd rfl (dead call (waits.2 call (by simp [queue])))

theorem grant_cases (grant : Grants most sys call after) : ∃ rest,
      sys.gate.projects = call.projectId :: rest ∧
        (after.gate.projects = rest ∨ after.gate.projects = rest ++ [call.projectId]) := by
  obtain ⟨action,step,grew⟩ := grant
  by_cases turn : action = .turn
  · subst turn
    obtain ⟨first,rest,more,front,moved,grown,own,-⟩ := turn_effect inv step
    have same : more = [call] := append_cancel_left (grown.symm.trans grew)
    rw [own call (by simp [same])]
    exact ⟨rest,front,moved⟩
  · simp [(serve_apart step turn).granted] at grew

theorem ahead_of_grant (grant : Grants most sys call after) (waits : Waits other after)
    (apart : other ≠ call.projectId) : Ahead other call.projectId after.gate.projects := by
  obtain ⟨rest,front,moved⟩ := grant_cases inv grant
  obtain ⟨action,step,-⟩ := grant
  have once := inv.shape.once
  rw [front, nodup_cons] at once
  have mem := waits_listed (step_fair inv step) waits
  have here : other ∈ rest := by
    rcases moved with gone | back
    · exact gone ▸ mem
    · simpa [back, apart] using mem
  obtain ⟨pre,behind,split⟩ := append_of_mem here
  have ahead : Ahead other call.projectId rest :=
    ⟨pre,behind,split,fun inside => once.1 (by simp [split, inside])⟩
  rcases moved with gone | back
  · exact gone ▸ ahead
  · exact back ▸ ahead_append ahead

theorem step_ahead (waits : Waits other sys) (step : Serves most sys action after) :
    ∃ more, after.granted = sys.granted ++ more ∧ ((∃ call ∈ more, call.projectId = other) ∨
      (Ahead other pid sys.gate.projects → Waits other after →
        Ahead other pid after.gate.projects)) := by
  by_cases turn : action = .turn
  · subst turn
    obtain ⟨first,rest,more,front,moved,grown,own,served⟩ := turn_effect inv step
    refine ⟨more,grown,?_⟩
    by_cases mine : first = other
    · subst mine
      obtain ⟨call,here⟩ := exists_mem_of_ne_nil _ (served waits)
      exact .inl ⟨call,here,own call here⟩
    · refine .inr fun ahead _ => ?_
      have left := (ahead_cons (front ▸ ahead) mine).2
      rcases moved with gone | back
      · exact gone ▸ left
      · exact back ▸ ahead_append left
  · have kept := serve_apart step turn
    refine ⟨[],by simp [kept.granted],.inr fun ahead waits => ?_⟩
    rcases kept.line with ⟨more,grown⟩ | cleared
    · exact grown ▸ ahead_append ahead
    · exact absurd (by simp [queueOf, cleared]) waits.1

theorem serves_in_turn : ServesInTurn most sys := by
  intro first granted actions pre later after other grant run waits again same apart
  have fair : Fair most granted := by
    obtain ⟨action,step,-⟩ := grant
    exact step_fair inv step
  -- Until the other Project has its grant, it stays ahead of the one that was served first.
  let Inv (st : Resuming) := Fair most st ∧ ∃ more,
    st.granted = granted.granted ++ more ∧ ((∃ call ∈ more, call.projectId = other) ∨
      (Waits other st → Ahead other first.projectId st.gate.projects))
  have keep {st action next} (inv : Inv st) (waits : Waits other st)
      (step : Serves most st action next) : Inv next := by
    obtain ⟨inv,more,grown,known⟩ := inv
    obtain ⟨new,grows,effect⟩ := step_ahead inv waits step
    refine ⟨step_fair inv step,more ++ new,by simp [grows, grown],?_⟩
    rcases known with ⟨call,here,mine⟩ | ahead
    · exact .inl ⟨call,mem_append_left _ here,mine⟩
    rcases effect with ⟨call,here,mine⟩ | keeps
    · exact .inl ⟨call,mem_append_right _ here,mine⟩
    · exact .inr (keeps (ahead waits))
  have start : Inv granted :=
    ⟨fair,[],by simp,.inr fun waits => ahead_of_grant inv grant waits apart⟩
  obtain ⟨fair,more,grown,served | ahead⟩ := guarded_run_invariant Inv keep run start
  · simpa [grown] using served
  · obtain ⟨rest,front,-⟩ := grant_cases fair again
    have line := ahead waits
    rw [front, same] at line
    exact absurd rfl (ahead_cons line (Ne.symm apart)).1

end Turns

section Shutdown
variable {most : Nat} {sys after : Resuming}

/-- A processed Shutdown ends the grants, and its caller is signalled with the first message
    after which nothing is active. -/
def ShutsDown (maxActive : Nat) (system : Resuming) : Prop :=
  ∀ done shut, Serves maxActive system (.shutdown done) shut →
    (∀ actions after, Run (Serves maxActive) shut actions after → after.granted = shut.granted) ∧
    ∀ actions after, Run (Guarded (fun state action => action = .rest → state.gate.active ≠ 0)
        (Serves maxActive)) shut actions after →
      after.finished = shut.finished ∧ (after.busy = true → after.gate.active = 0 →
        ∃ told, Serves maxActive after .rest told ∧
          done ∈ told.finished.drop shut.finished.length)

theorem stopped_apart (stopped : sys.stopped)
    (step : Serves most sys action after) : Apart sys action after := by
  refine serve_apart step ?_
  rintro rfl
  have running := (@turn_cases _ 0 _ _ step).2.1
  rw [stopped] at running
  cases running

theorem shuts_down : ShutsDown most sys := by
  intro done shut step
  obtain ⟨stopped,waits⟩ : shut.stopped ∧ done ∈ shut.gate.shutdownWaiters := by
    obtain ⟨-,rfl⟩ := received step
    simp [Resuming.handle]
  constructor
  · intro actions after run
    refine (run_invariant (fun st => st.stopped = true ∧ st.granted = shut.granted)
      ?_ run ⟨stopped,rfl⟩).2
    rintro st action next ⟨stop,same⟩ step
    have kept := stopped_apart stop step
    exact ⟨kept.stopped stop,kept.granted.trans same⟩
  · intro actions after run
    obtain ⟨stop,same,waits⟩ := guarded_run_invariant (fun st => st.stopped = true ∧
      st.finished = shut.finished ∧ done ∈ st.gate.shutdownWaiters) (by
        rintro st action next ⟨stop,same,waits⟩ busy step
        have kept := stopped_apart stop step
        obtain ⟨told,more⟩ := kept.signals busy
        exact ⟨kept.stopped stop,told.trans same,more waits⟩) run ⟨stopped,rfl,waits⟩
    refine ⟨same,fun busy idle => ?_⟩
    simp [Serves, Takes, serve, Resuming.perform, busy, stop, idle, same, waits]

end Shutdown

theorem resume_gate_is_fair {maxActive : Nat} {system : Resuming} {actions : List GateAction}
    (run : Run (Serves maxActive) .start actions system) :
    system.gate.active ≤ maxActive ∧
      (system.busy = false → system.stopped = true ∨ system.gate.active = maxActive ∨
        system.gate.queued = []) ∧
      (system.granted.Pairwise fun first later =>
        first.projectId = later.projectId → first.id < later.id) ∧
      ServesInTurn maxActive system ∧ ShutsDown maxActive system := by
  have inv := run_invariant (Fair maxActive) step_fair run start_fair
  refine ⟨inv.bound,fun idle => ?_,granted_in_order inv,serves_in_turn inv,shuts_down⟩
  cases running : system.stopped with
  | true => exact .inl rfl
  | false =>
    rcases Nat.lt_or_eq_of_le inv.bound with free | full
    · exact .inr (.inr (queued_nil inv.shape.lined (inv.drained idle running free)))
    · exact .inr (.inl full)

/-- One slot and two Projects: three calls of the first one, then one of the second. -/
def twoProjects : List GateAction :=
  [.acquire "a", .turn, .rest, .acquire "a", .rest, .acquire "a", .rest, .acquire "b", .rest,
    .release, .turn, .rest, .release, .turn, .rest, .release, .turn, .rest]

theorem second_project_has_its_turn : ∃ system, Run (Serves 1) .start twoProjects system ∧
    system.granted.map (·.projectId) = ["a", "a", "b", "a"] ∧
    ServesInTurn 1 system ∧ ShutsDown 1 system :=
  exists_reached ⟨_,run_of_execute rfl,rfl⟩ fun _ run _ => (resume_gate_is_fair run).2.2.2

end TermloopResumeFairness
