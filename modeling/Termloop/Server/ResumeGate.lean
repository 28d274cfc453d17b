import Mathlib.Data.List.AList
import Termloop.Lib.Runs

/-!
The gate in front of Agent resumes, with everybody around it: calls that acquire a
permit, the gate's task, the permits they build and drop, and the shutdown. The gate
shares `admitted` and `stopped` with its callers, so its task moves in small steps: a
message, one admission at a time, and the look at `stopped` before it waits again. A
future may only be dropped where it awaits its grant.
-/
namespace TermloopResume
open TermloopRuns List

structure ResumeCall where
  id : Nat
  projectId : String
  deriving DecidableEq

inductive ResumeGateCommand where
  | acquire (ready : ResumeCall)
  | release
  | shutdown (done : Nat)

structure ResumeGate where
  queues : AList fun _ : String => List ResumeCall
  projects : List String
  active : Nat
  shutdownWaiters : List Nat

structure Resuming where
  gate : ResumeGate
  /-- The task has taken a message and does not wait for the next one yet. -/
  busy : Bool
  mailbox : List ResumeGateCommand
  admitted : Nat
  stopped : Bool
  nextId : Nat
  /-- Calls that have passed the look at `stopped`. -/
  entered : List ResumeCall
  /-- Calls that are counted in `admitted` and have not sent their request. -/
  (reserved waiting : List ResumeCall)
  /-- Calls whose grant is sent and not received. -/
  (granted permits : List ResumeCall)
  /-- Shutdown calls that have set `stopped` and not sent their message. -/
  stopping : List Nat
  /-- Shutdown calls that have returned. -/
  finished : List Nat

def Resuming.start : Resuming :=
  { gate := ⟨∅, [], 0, []⟩, busy := false, mailbox := [], admitted := 0, stopped := false
    nextId := 0, entered := [], reserved := [], waiting := [], granted := [], permits := []
    stopping := [], finished := [] }

inductive ResumeAction where
  | enter (projectId : String)
  | reserve (call : ResumeCall)
  | send (call : ResumeCall)
  | receive | turn | rest
  | build (call : ResumeCall)
  | abandon (call : ResumeCall)
  | dropPermit (call : ResumeCall)
  | stop (id : Nat)
  | sendShutdown (id : Nat)

namespace ResumeGate

def queued (gate : ResumeGate) : List ResumeCall := gate.queues.entries.flatMap (·.2)

def enqueue (gate : ResumeGate) (ready : ResumeCall) : ResumeGate :=
  let queue := (gate.queues.lookup ready.projectId).getD []
  { gate with
    queues := gate.queues.insert ready.projectId (queue ++ [ready])
    projects := if ready.projectId ∈ gate.projects then gate.projects
      else gate.projects ++ [ready.projectId] }

/-- One turn of the admission loop: the next waiter, if the Project in front has one. -/
def pop (gate : ResumeGate) : Option (Option ResumeCall × ResumeGate) :=
  match gate.projects with
  | [] => none
  | projectId :: rest =>
    match gate.queues.lookup projectId with
    | none => some (none, { gate with projects := rest })
    | some [] =>
      some (none, { gate with projects := rest, queues := gate.queues.erase projectId })
    | some [ready] =>
      some (some ready, { gate with projects := rest, queues := gate.queues.erase projectId })
    | some (ready :: left) =>
      some (some ready, { gate with
        projects := rest ++ [projectId], queues := gate.queues.insert projectId left })

end ResumeGate

namespace Resuming

/-- `match command`; a dropped sender ends the call that waits for it. -/
def handle (system : Resuming) : ResumeGateCommand → Resuming
  | .acquire ready =>
    if system.stopped then
      { system with admitted := system.admitted - 1, waiting := system.waiting.erase ready }
    else { system with gate := system.gate.enqueue ready }
  | .release =>
    if system.gate.active > 0 then
      { system with
        gate := { system.gate with active := system.gate.active - 1 }
        admitted := system.admitted - 1 }
    else system
  | .shutdown done =>
    { system with
      stopped := true, admitted := system.admitted - system.gate.queued.length
      waiting := system.waiting.filter fun call => !system.gate.queued.contains call
      gate :=
        { system.gate with
          queues := ∅, projects := [], shutdownWaiters := system.gate.shutdownWaiters ++ [done] } }

def grant (system : Resuming) (ready : ResumeCall) : Resuming :=
  if ready ∈ system.waiting then
    { system with
      gate := { system.gate with active := system.gate.active + 1 }
      waiting := system.waiting.erase ready, granted := system.granted ++ [ready] }
  else { system with admitted := system.admitted - 1 }

def maxAdmitted (maxActive maxQueued : Nat) : Nat := maxActive + maxQueued

def perform (maxActive maxQueued : Nat) (system : Resuming) : ResumeAction → Option Resuming
  | .enter projectId =>
    if system.stopped then none
    else some { system with
      nextId := system.nextId + 1, entered := system.entered ++ [⟨system.nextId, projectId⟩] }
  | .reserve call =>
    if call ∈ system.entered then
      if system.admitted < maxAdmitted maxActive maxQueued then
        some { system with
          entered := system.entered.erase call, admitted := system.admitted + 1
          reserved := system.reserved ++ [call] }
      else some { system with entered := system.entered.erase call }
    else none
  | .send call =>
    if call ∈ system.reserved then
      some { system with
        reserved := system.reserved.erase call, mailbox := system.mailbox ++ [.acquire call]
        waiting := system.waiting ++ [call] }
    else none
  | .receive =>
    if system.busy then none
    else
      match system.mailbox with
      | [] => none
      | command :: rest => some ({ system with mailbox := rest, busy := true }.handle command)
  | .turn =>
    if system.busy && !system.stopped && decide (system.gate.active < maxActive) then
      match system.gate.pop with
      | none => none
      | some (none, gate) => some { system with gate := gate }
      | some (some ready, gate) => some ({ system with gate := gate }.grant ready)
    else none
  | .rest =>
    if system.busy && (system.stopped || !decide (system.gate.active < maxActive)
        || system.gate.projects.isEmpty) then
      if system.stopped && system.gate.active == 0 then
        some { system with
          busy := false, finished := system.finished ++ system.gate.shutdownWaiters
          gate := { system.gate with shutdownWaiters := [] } }
      else some { system with busy := false }
    else none
  | .build call =>
    if call ∈ system.granted then
      some { system with
        granted := system.granted.erase call, permits := system.permits ++ [call] }
    else none
  | .abandon call =>
    if call ∈ system.waiting then some { system with waiting := system.waiting.erase call }
    else if call ∈ system.granted then
      some { system with granted := system.granted.erase call }
    else none
  | .dropPermit call =>
    if call ∈ system.permits then
      some { system with
        permits := system.permits.erase call, mailbox := system.mailbox ++ [.release] }
    else none
  | .stop id => some { system with stopped := true, stopping := system.stopping ++ [id] }
  | .sendShutdown id =>
    if id ∈ system.stopping then
      some { system with
        stopping := system.stopping.erase id, mailbox := system.mailbox ++ [.shutdown id] }
    else none

end Resuming

section Queues

def total (queues : AList fun _ : String => List ResumeCall) : Nat :=
  (queues.entries.flatMap (·.2)).length

theorem total_erase (hit : queues.lookup pid = some queue) :
    total queues = total (queues.erase pid) + queue.length := by
  have entry := AList.mem_lookup_iff.mp hit
  obtain ⟨other,pre,behind,fresh,split,erased⟩ :=
    exists_of_kerase (mem_keys_of_mem entry)
  have same : other = queue := by
    have here : (⟨pid,other⟩ : Sigma fun _ : String => List ResumeCall) ∈ queues.entries := by
      rw [split]
      simp
    have both := AList.mem_lookup_iff.mpr here
    rw [hit] at both
    exact (Option.some.inj both).symm
  subst same
  have rest : (queues.erase pid).entries = pre ++ behind := erased
  simp only [total, split, rest, flatMap_append, flatMap_cons, length_append]
  omega

theorem total_insert (queues : AList fun _ : String => List ResumeCall) (pid : String)
    (queue : List ResumeCall) :
    total (queues.insert pid queue) = queue.length + total (queues.erase pid) := by
  have entries : (queues.insert pid queue).entries =
      ⟨pid,queue⟩ :: (queues.erase pid).entries := rfl
  simp only [total, entries, flatMap_cons, length_append]

theorem total_erase_none
    (missing : queues.lookup pid = none) : total (queues.erase pid) = total queues := by
  have absent : pid ∉ queues.keys := by
    intro here
    have hit := AList.lookup_isSome.mpr here
    rw [missing] at hit
    cases hit
  have kept : (queues.erase pid).entries = queues.entries :=
    kerase_of_notMem_keys absent
  rw [total, kept, total]

variable {gate after : ResumeGate}

theorem enqueue_queued : (gate.enqueue ready).queued.length = gate.queued.length + 1 := by
  have added := total_insert gate.queues ready.projectId
    ((gate.queues.lookup ready.projectId).getD [] ++ [ready])
  cases hit : gate.queues.lookup ready.projectId with
  | none =>
    have same := total_erase_none hit
    simp only [hit, Option.getD_none, total, nil_append, length_singleton] at added same
    simp only [ResumeGate.enqueue, ResumeGate.queued, hit, Option.getD_none, nil_append]
    omega
  | some queue =>
    have same := total_erase hit
    simp only [hit, Option.getD_some, total, length_append, length_singleton] at added same
    simp only [ResumeGate.enqueue, ResumeGate.queued, hit, Option.getD_some]
    omega

theorem pop_queued (popped : gate.pop = some (ready, after)) :
    gate.queued.length = after.queued.length + ready.toList.length ∧
      after.active = gate.active ∧ after.shutdownWaiters = gate.shutdownWaiters := by
  unfold ResumeGate.pop at popped
  split at popped
  · cases popped
  next pid rest _ =>
  split at popped
  · cases popped
    exact ⟨rfl,rfl,rfl⟩
  · next hit =>
    cases popped
    exact ⟨total_erase hit,rfl,rfl⟩
  · next first hit =>
    cases popped
    exact ⟨total_erase hit,rfl,rfl⟩
  · next first left _ hit =>
    cases popped
    have fewer := total_erase hit
    have again := total_insert gate.queues pid left
    refine ⟨?_,rfl,rfl⟩
    simp only [total, length_cons] at fewer again
    simp only [ResumeGate.queued, Option.toList_some, length_singleton]
    omega

/-- Every Project with a queue stands in line. -/
def Lined (gate : ResumeGate) : Prop :=
  ∀ projectId, (gate.queues.lookup projectId).isSome = true → projectId ∈ gate.projects

theorem queued_nil (lined : Lined gate) (empty : gate.projects = []) : gate.queued = [] := by
  have keys : gate.queues.entries = [] := by
    apply eq_nil_iff_forall_not_mem.mpr
    intro entry here
    have hit := AList.mem_lookup_iff.mpr here
    have mem := lined entry.1 (Option.isSome_of_mem hit)
    rw [empty] at mem
    cases mem
  rw [ResumeGate.queued, keys, flatMap_nil]

theorem lined_enqueue (lined : Lined gate) (ready : ResumeCall) : Lined (gate.enqueue ready) := by
  intro pid hit
  simp only [ResumeGate.enqueue] at hit ⊢
  by_cases mine : pid = ready.projectId
  · subst mine
    split <;> simp_all
  · rw [AList.lookup_insert_ne mine] at hit
    have mem := lined pid hit
    split
    · exact mem
    · exact mem_append_left _ mem

def queueOf (gate : ResumeGate) (projectId : String) : List ResumeCall :=
  (gate.queues.lookup projectId).getD []

theorem pop_effect (popped : gate.pop = some (ready, after)) :
    ∃ pid rest, gate.projects = pid :: rest ∧
      (after.projects = rest ∧ after.queues.lookup pid = none ∨
        after.projects = rest ++ [pid]) ∧
      queueOf gate pid = ready.toList ++ queueOf after pid ∧
      (ready = none → queueOf gate pid = []) ∧
      ∀ other, other ≠ pid → after.queues.lookup other = gate.queues.lookup other := by
  unfold ResumeGate.pop at popped
  split at popped
  · cases popped
  next pid rest front =>
  refine ⟨pid,rest,front,?_⟩
  split at popped
  · next hit =>
    cases popped
    simp [queueOf, hit]
  · next hit =>
    cases popped
    simp +contextual [queueOf, hit, AList.lookup_erase_ne]
  · next hit =>
    cases popped
    simp +contextual [queueOf, hit, AList.lookup_erase_ne]
  · next hit =>
    cases popped
    simp +contextual [queueOf, hit, AList.lookup_insert_ne]

theorem lined_pop (lined : Lined gate) (popped : gate.pop = some (ready, after)) : Lined after := by
  obtain ⟨pid,rest,front,moved,-,-,others⟩ := pop_effect popped
  intro other hit
  by_cases mine : other = pid
  · subst mine
    rcases moved with ⟨-,gone⟩ | back
    · simp [gone] at hit
    · simp [back]
  · rw [others other mine] at hit
    have mem := lined other hit
    simp only [front, mem_cons, mine, false_or] at mem
    rcases moved with ⟨gone,-⟩ | back
    · exact gone ▸ mem
    · exact back ▸ mem_append_left _ mem

end Queues

section Accounts

def ResumeGateCommand.isAcquire : ResumeGateCommand → Bool
  | .acquire _ => true
  | .release | .shutdown _ => false

def ResumeGateCommand.isRelease : ResumeGateCommand → Bool
  | .release => true
  | .acquire _ | .shutdown _ => false

/-- Where every slot and every admission is, and what a stopped gate still owes. -/
structure Accounted (maxActive : Nat) (system : Resuming) : Prop where
  active : system.gate.active = system.granted.length + system.permits.length +
    system.mailbox.countP ResumeGateCommand.isRelease
  admitted : system.admitted = system.reserved.length +
    system.mailbox.countP ResumeGateCommand.isAcquire + system.gate.queued.length +
    system.gate.active
  lined : Lined system.gate
  drained : system.busy = false → system.stopped = false → system.gate.active < maxActive →
    system.gate.projects = []
  cleared : system.stopped = true → system.stopping ≠ [] ∨
    (∃ id, .shutdown id ∈ system.mailbox) ∨ system.gate.queued = []
  stops : system.gate.shutdownWaiters ≠ [] → system.stopped = true
  notified : system.busy = false → system.stopped = true → system.gate.active = 0 →
    system.gate.shutdownWaiters = []

variable {most maxQueued : Nat} {sys after : Resuming}

theorem start_accounted (most : Nat) : Accounted most Resuming.start := by
  constructor
  · rfl
  · rfl
  · exact fun _ hit => nomatch hit
  · exact fun _ _ _ => rfl
  · exact fun stopped => nomatch stopped
  · exact fun waits => absurd rfl waits
  · exact fun _ _ _ => rfl

theorem accounted_of_callers (inv : Accounted most sys)
    (gate : after.gate = sys.gate) (busy : after.busy = sys.busy)
    (stopped : after.stopped = sys.stopped) (slots : after.granted.length + after.permits.length +
        after.mailbox.countP ResumeGateCommand.isRelease =
      sys.granted.length + sys.permits.length + sys.mailbox.countP ResumeGateCommand.isRelease)
    (counted : after.admitted + sys.reserved.length +
        sys.mailbox.countP ResumeGateCommand.isAcquire =
      sys.admitted + after.reserved.length + after.mailbox.countP ResumeGateCommand.isAcquire)
    (owed : sys.stopping ≠ [] ∨ (∃ id, .shutdown id ∈ sys.mailbox) →
      after.stopping ≠ [] ∨ ∃ id, .shutdown id ∈ after.mailbox) :
    Accounted most after := by
  have active := inv.active
  have admitted := inv.admitted
  constructor
  · rw [gate]
    omega
  · rw [gate]
    omega
  · exact gate ▸ inv.lined
  · rw [gate, busy, stopped]
    exact inv.drained
  · intro stop
    rw [stopped] at stop
    rw [gate]
    rcases inv.cleared stop with sending | sent | empty
    · rcases owed (.inl sending) with still | there
      · exact .inl still
      · exact .inr (.inl there)
    · rcases owed (.inr sent) with still | there
      · exact .inl still
      · exact .inr (.inl there)
    · exact .inr (.inr empty)
  · rw [gate, stopped]
    exact inv.stops
  · rw [gate, busy, stopped]
    exact inv.notified

theorem shutdown_append {mailbox : List ResumeGateCommand}
    (sent : ∃ id, .shutdown id ∈ mailbox) : ∃ id, .shutdown id ∈ mailbox ++ [command] := by
  obtain ⟨id,here⟩ := sent
  exact ⟨id,mem_append_left _ here⟩

theorem handle_accounted (inv : Accounted most sys) (first : sys.mailbox = command :: rest) :
    Accounted most ({ sys with mailbox := rest, busy := true }.handle command) := by
  have active := inv.active
  have admitted := inv.admitted
  have cleared := inv.cleared
  rw [first] at active admitted cleared
  cases command with
  | acquire ready =>
    simp only [countP_cons, ResumeGateCommand.isRelease, ResumeGateCommand.isAcquire,
      Bool.false_eq_true, if_false, if_true, Nat.add_zero] at active admitted
    have owed : sys.stopped → sys.stopping ≠ [] ∨
        (∃ id, ResumeGateCommand.shutdown id ∈ rest) ∨ sys.gate.queued = [] :=
      fun stop => by simpa using cleared stop
    simp only [Resuming.handle]
    split
    · next stop =>
      refine ⟨active,?_,inv.lined,nofun,owed,inv.stops,nofun⟩
      dsimp only
      omega
    · next running =>
      refine ⟨active,?_,lined_enqueue inv.lined ready,nofun,fun stop => absurd stop running,
        inv.stops,nofun⟩
      dsimp only
      rw [enqueue_queued]
      have same : (sys.gate.enqueue ready).active = sys.gate.active := rfl
      omega
  | release =>
    simp only [countP_cons, ResumeGateCommand.isRelease, ResumeGateCommand.isAcquire,
      Bool.false_eq_true, if_false, if_true, Nat.add_zero] at active admitted
    have held : sys.gate.active > 0 := by omega
    have owed : sys.stopped → sys.stopping ≠ [] ∨
        (∃ id, ResumeGateCommand.shutdown id ∈ rest) ∨ sys.gate.queued = [] :=
      fun stop => by simpa using cleared stop
    simp only [Resuming.handle, if_pos held]
    refine ⟨?_,?_,inv.lined,nofun,owed,inv.stops,nofun⟩
    · dsimp only
      omega
    · have same : ({ sys.gate with active := sys.gate.active - 1 } : ResumeGate).queued =
          sys.gate.queued := rfl
      dsimp only
      rw [same]
      omega
  | shutdown done =>
    simp only [countP_cons, ResumeGateCommand.isRelease, ResumeGateCommand.isAcquire,
      Bool.false_eq_true, if_false, Nat.add_zero] at active admitted
    refine ⟨active,?_,fun _ hit => (nomatch hit),nofun,fun _ => .inr (.inr rfl), fun _ => rfl,nofun⟩
    simp only [Resuming.handle]
    have none_left : ({ sys.gate with
        queues := ∅, projects := []
        shutdownWaiters := sys.gate.shutdownWaiters ++ [done] } : ResumeGate).queued = [] := rfl
    rw [none_left, length_nil]
    omega

theorem busy_accounted (busy : after.busy) (running : after.stopped = false)
    (active : after.gate.active = after.granted.length + after.permits.length +
      after.mailbox.countP ResumeGateCommand.isRelease)
    (admitted : after.admitted = after.reserved.length +
      after.mailbox.countP ResumeGateCommand.isAcquire + after.gate.queued.length +
      after.gate.active) (lined : Lined after.gate)
    (stops : after.gate.shutdownWaiters ≠ [] → after.stopped) :
    Accounted most after := by
  refine ⟨active,admitted,lined,fun idle => ?_,fun stop => ?_,stops,fun idle => ?_⟩
  · simp [busy] at idle
  · simp [running] at stop
  · simp [busy] at idle

theorem turn_cases (step : sys.perform most maxQueued .turn = some after) :
    sys.busy ∧ sys.stopped = false ∧ sys.gate.active < most ∧
      ∃ ready gate, sys.gate.pop = some (ready, gate) ∧
        ((∃ call ∈ sys.waiting, ready = some call ∧ after = { sys with
            gate := { gate with active := gate.active + 1 }
            waiting := sys.waiting.erase call, granted := sys.granted ++ [call] }) ∨
          (∀ call ∈ sys.waiting, ready ≠ some call) ∧ after = { sys with
            gate := gate, admitted := sys.admitted - ready.toList.length }) := by
  simp only [Resuming.perform] at step
  split at step
  · next admits =>
    simp only [Bool.and_eq_true, Bool.not_eq_true', decide_eq_true_eq] at admits
    refine ⟨admits.1.1,admits.1.2,admits.2,?_⟩
    split at step
    · cases step
    · next gate popped =>
      cases step
      exact ⟨none,gate,popped,.inr ⟨nofun,rfl⟩⟩
    · next call gate popped =>
      cases step
      refine ⟨some call,gate,popped,?_⟩
      by_cases alive : call ∈ sys.waiting
      · exact .inl ⟨call,alive,rfl,if_pos alive⟩
      · exact .inr ⟨by rintro other here ⟨⟩; exact alive here,if_neg alive⟩
  · cases step

theorem rest_cases (step : sys.perform most maxQueued .rest = some after) :
    (sys.stopped = false → sys.gate.active < most → sys.gate.projects = []) ∧
      (sys.stopped ∧ sys.gate.active = 0 ∧ after = { sys with
          busy := false, finished := sys.finished ++ sys.gate.shutdownWaiters
          gate := { sys.gate with shutdownWaiters := [] } } ∨
        ¬ (sys.stopped ∧ sys.gate.active = 0) ∧ after = { sys with busy := false }) := by
  simp only [Resuming.perform] at step
  split at step
  · next done =>
    simp only [Bool.and_eq_true, Bool.or_eq_true, Bool.not_eq_true', decide_eq_false_iff_not,
      List.isEmpty_iff] at done
    refine ⟨fun running free => ?_,?_⟩
    · simpa [running, free] using done.2
    · split at step
      · next owing =>
        cases step
        simp only [Bool.and_eq_true, beq_iff_eq] at owing
        exact .inl ⟨owing.1,owing.2,rfl⟩
      · next owing =>
        cases step
        simp only [Bool.and_eq_true, beq_iff_eq] at owing
        exact .inr ⟨owing,rfl⟩
  · cases step

theorem turn_accounted (inv : Accounted most sys)
    (step : sys.perform most maxQueued .turn = some after) : Accounted most after := by
  have active := inv.active
  have admitted := inv.admitted
  obtain ⟨busy,running,-,ready,gate,popped,granted⟩ := turn_cases step
  obtain ⟨fewer,count,waiters⟩ := pop_queued popped
  have lined := lined_pop inv.lined popped
  rcases granted with ⟨call,-,rfl,rfl⟩ | ⟨-,rfl⟩
  · have same : ({ gate with active := gate.active + 1 } : ResumeGate).queued = gate.queued := rfl
    simp only [Option.toList_some, length_singleton] at fewer
    refine busy_accounted busy running ?_ ?_ lined fun waits => inv.stops (waiters ▸ waits)
    · simp only [length_append, length_singleton]
      omega
    · dsimp only
      rw [same]
      omega
  · refine busy_accounted busy running ?_ ?_ lined fun waits => inv.stops (waiters ▸ waits)
    · dsimp only
      omega
    · dsimp only
      omega

theorem rest_accounted (inv : Accounted most sys)
    (step : sys.perform most maxQueued .rest = some after) : Accounted most after := by
  obtain ⟨drained,⟨-,-,rfl⟩ | ⟨owing,rfl⟩⟩ := rest_cases step
  · exact ⟨inv.active,inv.admitted,inv.lined,fun _ => drained,inv.cleared,
      fun waits => absurd rfl waits,fun _ _ _ => rfl⟩
  · exact ⟨inv.active,inv.admitted,inv.lined,fun _ => drained,inv.cleared,inv.stops,
      fun _ stopped idle => absurd ⟨stopped,idle⟩ owing⟩

/-- No future is dropped between the grant and the permit. -/
def KeepsGrant (system : Resuming) : ResumeAction → Prop
  | .abandon call => call ∉ system.granted
  | _ => True

theorem some_of_if [Decidable p]
    (step : (if p then some value else none) = some after) : p ∧ value = after := by
  simpa using step

theorem step_accounted {action : ResumeAction} (inv : Accounted most sys)
    (safe : KeepsGrant sys action)
    (step : sys.perform most maxQueued action = some after) : Accounted most after :=
      by
  cases action with
  | enter pid =>
    simp only [Resuming.perform] at step
    split at step
    · cases step
    cases step
    exact accounted_of_callers inv rfl rfl rfl rfl rfl id
  | reserve call =>
    simp only [Resuming.perform] at step
    split at step
    · split at step
      · cases step
        refine accounted_of_callers inv rfl rfl rfl rfl ?_ id
        simp only [length_append, length_singleton]
        omega
      · cases step
        exact accounted_of_callers inv rfl rfl rfl rfl rfl id
    · cases step
  | send call =>
    obtain ⟨here,rfl⟩ := some_of_if step
    have fewer := length_erase_add_one here
    refine accounted_of_callers inv rfl rfl rfl ?_ ?_ (Or.imp_right shutdown_append)
    · simp [countP_append, ResumeGateCommand.isRelease]
    · simp only [countP_append, countP_singleton, ResumeGateCommand.isAcquire, if_true]
      omega
  | build call =>
    obtain ⟨here,rfl⟩ := some_of_if step
    have fewer := length_erase_add_one here
    refine accounted_of_callers inv rfl rfl rfl ?_ rfl id
    simp only [length_append, length_singleton]
    omega
  | abandon call =>
    simp only [Resuming.perform, if_neg safe] at step
    obtain ⟨-,rfl⟩ := some_of_if step
    exact accounted_of_callers inv rfl rfl rfl rfl rfl id
  | dropPermit call =>
    obtain ⟨here,rfl⟩ := some_of_if step
    have fewer := length_erase_add_one here
    refine accounted_of_callers inv rfl rfl rfl ?_ ?_ (Or.imp_right shutdown_append)
    · simp only [countP_append, countP_singleton, ResumeGateCommand.isRelease, if_true]
      omega
    · simp [countP_append, ResumeGateCommand.isAcquire]
  | receive =>
    simp only [Resuming.perform] at step
    iterate 2 (split at step; · cases step)
    next first =>
    cases step
    exact handle_accounted inv first
  | turn => exact turn_accounted inv step
  | rest => exact rest_accounted inv step
  | stop id =>
    cases step
    refine ⟨inv.active,inv.admitted,inv.lined,fun _ running => (nomatch running),
      fun _ => .inl (by simp),fun _ => rfl,fun idle _ none_active => ?_⟩
    by_contra waits
    exact waits (inv.notified idle (inv.stops waits) none_active)
  | sendShutdown id =>
    obtain ⟨-,rfl⟩ := some_of_if step
    refine accounted_of_callers inv rfl rfl rfl ?_ ?_ fun _ => .inr ⟨id,by simp⟩
    · simp [countP_append, ResumeGateCommand.isRelease]
    · simp [countP_append, ResumeGateCommand.isAcquire]

end Accounts

section Settled
variable {most maxQueued : Nat} {sys : Resuming}

def Step (maxActive maxQueued : Nat) : Resuming → ResumeAction → Resuming → Prop :=
  Takes (Resuming.perform maxActive maxQueued)

/-- Messages are sent and processed, and granted permits built and dropped. -/
structure Settled (system : Resuming) : Prop where
  idle : system.busy = false
  mailbox : system.mailbox = []
  reserved : system.reserved = []
  stopping : system.stopping = []
  granted : system.granted = []
  permits : system.permits = []

theorem run_accounted (run : Run (Guarded KeepsGrant (Step most maxQueued)) .start actions sys) :
    Accounted most sys := by
  exact guarded_run_invariant (Accounted most) step_accounted run (start_accounted most)

variable (inv : Accounted most sys)
include inv

theorem settled_active (settled : Settled sys) : sys.gate.active = 0 := by
  rw [inv.active, settled.granted, settled.permits, settled.mailbox]
  rfl

theorem settled_queued (settled : Settled sys) (room : 0 < most) : sys.gate.queued = [] := by
  cases stopped : sys.stopped with
  | false =>
    have free : sys.gate.active < most := by
      rw [settled_active inv settled]
      exact room
    exact queued_nil inv.lined (inv.drained settled.idle stopped free)
  | true =>
    rcases inv.cleared stopped with sending | ⟨id,sent⟩ | empty
    · exact absurd settled.stopping sending
    · rw [settled.mailbox] at sent
      cases sent
    · exact empty

theorem settled_admitted (settled : Settled sys) (room : 0 < most) : sys.admitted = 0 := by
  rw [inv.admitted, settled.reserved, settled.mailbox, settled_queued inv settled room,
    settled_active inv settled]
  rfl

theorem settled_waiters (settled : Settled sys) : sys.gate.shutdownWaiters = [] := by
  by_contra waits
  exact waits (inv.notified settled.idle (inv.stops waits) (settled_active inv settled))

theorem settled_grants (settled : Settled sys)
    (room : 0 < most) (running : sys.stopped = false) (pid : String) :
    ∃ after, Run (Step most maxQueued) sys
        [.enter pid, .reserve ⟨sys.nextId, pid⟩, .send ⟨sys.nextId, pid⟩,
          .receive, .turn] after ∧ ⟨sys.nextId, pid⟩ ∈ after.granted := by
  have free : sys.gate.active < most := by
    rw [settled_active inv settled]
    exact room
  have counted : sys.admitted < Resuming.maxAdmitted most maxQueued := by
    rw [settled_admitted inv settled room, Resuming.maxAdmitted]
    omega
  have line := inv.drained settled.idle running free
  have missing : sys.gate.queues.lookup pid = none := by
    cases hit : sys.gate.queues.lookup pid with
    | none => rfl
    | some queue =>
      have mem := inv.lined pid (hit ▸ rfl)
      rw [line] at mem
      cases mem
  have grants : ∃ after, execute (Resuming.perform most maxQueued) sys
      [.enter pid, .reserve ⟨sys.nextId,pid⟩, .send ⟨sys.nextId,pid⟩,
        .receive, .turn] = some after ∧ ⟨sys.nextId,pid⟩ ∈ after.granted := by
    simp [execute, Resuming.perform, Resuming.handle, Resuming.grant, ResumeGate.enqueue,
      ResumeGate.pop, running, counted, settled.idle, settled.mailbox, settled.reserved, line,
      missing, free]
  obtain ⟨after,ran,granted⟩ := grants
  exact ⟨after,run_of_execute ran,granted⟩

theorem settled_shuts_down (settled : Settled sys) (id : Nat) :
    ∃ after, Run (Step most maxQueued) sys
        [.stop id, .sendShutdown id, .receive, .rest] after ∧ id ∈ after.finished := by
  have idle := settled_active inv settled
  have ends : ∃ after, execute (Resuming.perform most maxQueued) sys
      [.stop id, .sendShutdown id, .receive, .rest] = some after ∧ id ∈ after.finished := by
    simp [execute, Resuming.perform, Resuming.handle, settled.idle, settled.mailbox, idle]
  obtain ⟨after,ran,finished⟩ := ends
  exact ⟨after,run_of_execute ran,finished⟩

end Settled

end TermloopResume
