import Termloop.Server.ObservationGate
import Termloop.Server.ResumeGate

/-!
Permits of both gates over whole runs. A slot is taken when a grant is sent and given
back when a permit is dropped, so it is lost with a future that is dropped between the
two. Here the observation gate gets its callers too, and both gates are shown to give
back every slot as long as no future is dropped there.
-/
namespace TermloopPermits
open TermloopRuns TermloopObservation List

structure ObservationCall where
  id : Nat
  projectId : String
  deriving DecidableEq

structure Permitting where
  gate : ObservationGate ObservationCall
  mailbox : List (ObservationGateCommand ObservationCall)
  nextId : Nat
  waiting : List ObservationCall
  /-- Calls whose grant is sent and not received. -/
  (granted permits : List ObservationCall)

def Permitting.start : Permitting :=
  { gate := .empty, mailbox := [], nextId := 0, waiting := [], granted := [], permits := [] }

inductive PermitAction where
  | request (projectId : String) (priority : ObservationPriority)
  | process
  | build (call : ObservationCall)
  | abandon (call : ObservationCall)
  | dropPermit (call : ObservationCall)

namespace Permitting

def alive (system : Permitting) (call : ObservationCall) : Bool := system.waiting.contains call

def perform (system : Permitting) : PermitAction → Option Permitting
  | .request projectId priority =>
    let call : ObservationCall := ⟨system.nextId, projectId⟩
    some { system with
      nextId := system.nextId + 1, mailbox := system.mailbox ++ [.acquire projectId priority call]
      waiting := system.waiting ++ [call] }
  | .process =>
    match system.mailbox with
    | [] => none
    | command :: rest =>
      let answer := system.gate.process system.alive command
      some { system with
        gate := answer.1, mailbox := rest
        waiting := system.waiting.filter fun call => !answer.2.contains call
        granted := system.granted ++ answer.2 }
  | .build call =>
    if call ∈ system.granted then
      some { system with
        granted := system.granted.erase call, permits := system.permits ++ [call] }
    else none
  | .abandon call =>
    if call ∈ system.waiting then some { system with waiting := system.waiting.erase call }
    else if call ∈ system.granted then
      some { system with granted := system.granted.erase call }
    else none
  | .dropPermit call =>
    if call ∈ system.permits then
      some { system with
        permits := system.permits.erase call
        mailbox := system.mailbox ++ [.release call.projectId] }
    else none

end Permitting

def Step : Permitting → PermitAction → Permitting → Prop := Takes Permitting.perform

/-- No future is dropped between the grant and the permit. -/
def KeepsGrant (system : Permitting) : PermitAction → Prop
  | .abandon call => call ∉ system.granted
  | _ => True

section Admissions
variable {Waiter : Type} {alive : Waiter → Bool} {gate : ObservationGate Waiter}
  {project : Waiter → String}

/-- With waiters queued for their own Projects, each admission takes a slot for another
    Project. -/
structure Admits (alive : Waiter → Bool) (project : Waiter → String)
    (gate : ObservationGate Waiter) (answer : ObservationGate Waiter × List Waiter) : Prop where
  queued : ∀ projectId ready, Queued answer.1 projectId ready → Queued gate projectId ready
  nodup : (answer.2.map project).Nodup
  idle : ∀ projectId ∈ answer.2.map project, projectId ∉ gate.activeProjects
  projects : ∀ projectId, projectId ∈ answer.1.activeProjects ↔
    projectId ∈ answer.2.map project ∨ projectId ∈ gate.activeProjects
  active : answer.1.active = answer.2.length + gate.active
  living : ∀ ready ∈ answer.2, alive ready = true ∧ ∃ projectId, Queued gate projectId ready
  keeps : ∀ projectId ready, Queued gate projectId ready → alive ready = true →
    Queued answer.1 projectId ready ∨ ready ∈ answer.2

theorem admits_nobody : Admits alive project gate (gate, []) :=
  ⟨fun _ _ waits => waits,nodup_nil,fun _ here => absurd here not_mem_nil,
    fun _ => by simp,(Nat.zero_add _).symm,fun _ here => absurd here not_mem_nil,
    fun _ _ queued _ => .inl queued⟩

theorem admitAll_admits (own : ∀ pid ready, Queued gate pid ready → project ready = pid) :
    Admits alive project gate (gate.admitAll alive passes) := by
  induction passes generalizing gate with
  | zero => exact admits_nobody
  | succ passes ih =>
    unfold ObservationGate.admitAll
    split
    · have pass := scan_passes alive gate.projects.length gate
      split
      · next after scanned =>
        rw [scanned] at pass
        refine ⟨pass.queued,nodup_nil,fun _ here => absurd here not_mem_nil,?_,?_,
          fun _ here => absurd here not_mem_nil,?_⟩
        · intro pid
          rw [pass.admits.1]
          simp
        · rw [pass.admits.2]
          exact (Nat.zero_add _).symm
        · intro pid ready queued live
          rcases pass.keeps pid ready queued live with stays | taken
          · exact .inl stays
          · cases taken
      · next after ready scanned =>
        rw [scanned] at pass
        obtain ⟨live,pid,idle,queued,count,projects⟩ := pass.admits
        have mine := own pid ready queued
        dsimp only at count projects
        obtain ⟨more,nodup,later,reached,total,living,keeps⟩ :=
          ih fun other waiter waits => own other waiter (pass.queued other waiter waits)
        refine ⟨fun other waiter waits => pass.queued other waiter (more other waiter waits),
          ?_,?_,?_,?_,?_,?_⟩
        · rw [map_cons, mine, nodup_cons]
          refine ⟨fun again => later pid again ?_,nodup⟩
          rw [projects]
          exact Finset.mem_insert_self pid _
        · intro other here active
          rw [map_cons, mine] at here
          rcases mem_cons.mp here with same | rest
          · exact idle (same ▸ active)
          · apply later other rest
            rw [projects]
            exact Finset.mem_insert_of_mem active
        · intro other
          rw [reached other, projects, Finset.mem_insert, map_cons, mine, mem_cons]
          tauto
        · dsimp only at total ⊢
          rw [total, count, length_cons]
          omega
        · intro waiter here
          rcases mem_cons.mp here with same | rest
          · exact ⟨same ▸ live,pid,same ▸ queued⟩
          · obtain ⟨alive,other,waits⟩ := living waiter rest
            exact ⟨alive,other,pass.queued other waiter waits⟩
        · intro other waiter waits alive
          rcases pass.keeps other waiter waits alive with stays | taken
          · exact (keeps other waiter stays alive).imp_right (mem_cons_of_mem _)
          · cases taken
            exact .inr mem_cons_self
    · exact admits_nobody

theorem lone_waiter_admitted
    (lined : Lined gate) (idle : gate.active = 0) (free : gate.activeProjects = ∅)
    (own : ∀ other waiter, Queued gate other waiter → project waiter = other)
    (mine : project ready = pid) (missing : gate.queues.lookup pid = none)
    (lone : ∀ waiter, alive waiter ↔ waiter = ready) (fresh : ∀ other, ¬ Queued gate other ready) :
    ready ∈ (gate.process alive (.acquire pid rank ready)).2 := by
  have queue : (gate.accept (.acquire pid rank ready)).queues.lookup pid =
      some ((⟨[],[]⟩ : ProjectObservationQueue Waiter).push rank ready) := by
    simp only [ObservationGate.accept, AList.lookup_insert, missing, Option.getD_none]
  have waits : Queued (gate.accept (.acquire pid rank ready)) pid ready :=
    ⟨_,queue,mem_push.mpr (.inr rfl)⟩
  have place : ∀ other waiter, alive waiter →
      Queued (gate.accept (.acquire pid rank ready)) other waiter →
      other = pid := by
    intro other waiter live queued
    have same := (lone waiter).mp live
    subst same
    rcases accept_queued queued with old | ⟨again,sent⟩
    · exact absurd old (fresh other)
    · cases sent
      rfl
  have next : NextAlive alive (gate.accept (.acquire pid rank ready)) := by
    rintro other hit - mem ⟨waiter,here,live⟩
    have same := place other waiter live ⟨hit,mem,here⟩
    subst same
    rw [queue] at mem
    cases mem
    refine ⟨ready,?_,(lone ready).mpr rfl⟩
    cases rank <;> rfl
  have admits : Admits alive project (gate.accept (.acquire pid rank ready))
      (gate.process alive (.acquire pid rank ready)) := by
    apply admitAll_admits
    intro other waiter queued
    rcases accept_queued queued with old | ⟨again,sent⟩
    · exact own other waiter old
    · cases sent
      exact mine
  by_contra absent
  have nobody : (gate.process alive (.acquire pid rank ready)).2 = [] := by
    apply eq_nil_iff_forall_not_mem.mpr
    intro waiter here
    exact absent ((lone waiter).mp (admits.living waiter here).1 ▸ here)
  have active := admits.active
  rw [nobody] at active
  have spare : (gate.process alive (.acquire pid rank ready)).1.active < 2 := by
    rw [active]
    simp [ObservationGate.accept, idle]
  have rested : pid ∉ (gate.process alive (.acquire pid rank ready)).1.activeProjects := by
    rw [admits.projects, nobody]
    simp [ObservationGate.accept, free]
  have live := (lone ready).mpr rfl
  rcases admits.keeps pid ready waits live with stays | taken
  · have dead := (process_conserves lined fun _ => next).2 spare pid ready rested stays
    rw [live] at dead
    cases dead
  · exact absent taken

end Admissions

section Held

def released : ObservationGateCommand ObservationCall → Option String
  | .release projectId => some projectId
  | .acquire _ _ _ => none

/-- Projects whose slot is out: a grant, a permit, or a release not seen yet. -/
def held (system : Permitting) : List String :=
  system.granted.map (·.projectId) ++ system.permits.map (·.projectId) ++
    system.mailbox.filterMap released

structure Accounted (system : Permitting) : Prop where
  lined : Lined system.gate
  own : ∀ projectId call, Queued system.gate projectId call → call.projectId = projectId
  sent : ∀ projectId priority call, .acquire projectId priority call ∈ system.mailbox →
    call.projectId = projectId
  known : ∀ projectId call, Queued system.gate projectId call → call.id < system.nextId
  numbered : ∀ projectId priority call, .acquire projectId priority call ∈ system.mailbox →
    call.id < system.nextId
  distinct : (held system).Nodup
  projects : ∀ projectId, projectId ∈ system.gate.activeProjects ↔ projectId ∈ held system
  active : system.gate.active = (held system).length

variable {sys after : Permitting}

theorem start_accounted : Accounted Permitting.start := by
  have nobody : ∀ pid call, ¬ Queued Permitting.start.gate pid call := by
    rintro pid call ⟨queue,hit,-⟩
    cases hit
  refine ⟨⟨nodup_nil,fun _ => ?_⟩,fun _ _ queued => absurd queued (nobody _ _),
    fun _ _ _ here => absurd here not_mem_nil,fun _ _ queued => absurd queued (nobody _ _),
    fun _ _ _ here => absurd here not_mem_nil,nodup_nil,fun _ => ?_,rfl⟩
  · simp [Permitting.start, ObservationGate.empty]
  · simp [Permitting.start, ObservationGate.empty, held]

theorem accounted_of_moved (inv : Accounted sys) (gate : after.gate = sys.gate)
    (older : sys.nextId ≤ after.nextId)
    (mail : ∀ pid rank call, .acquire pid rank call ∈ after.mailbox →
      .acquire pid rank call ∈ sys.mailbox ∨
        call.projectId = pid ∧ call.id < after.nextId)
    (moved : (held after).Perm (held sys)) : Accounted after := by
  refine ⟨gate ▸ inv.lined,gate ▸ inv.own,?_,?_,?_,moved.nodup_iff.mpr inv.distinct,?_,?_⟩
  · intro pid rank call here
    rcases mail pid rank call here with old | new
    · exact inv.sent pid rank call old
    · exact new.1
  · intro pid call queued
    rw [gate] at queued
    have below := inv.known pid call queued
    omega
  · intro pid rank call here
    rcases mail pid rank call here with old | new
    · have below := inv.numbered pid rank call old
      omega
    · exact new.2
  · intro pid
    rw [gate, inv.projects]
    exact moved.mem_iff.symm
  · rw [gate, inv.active]
    exact moved.length_eq.symm

theorem moved_map {l m : List ObservationCall} (here : call ∈ l) :
    ((l.erase call).map (·.projectId) ++ (m ++ [call]).map (·.projectId)).Perm
      (l.map (·.projectId) ++ m.map (·.projectId)) := by
  have taken := (perm_cons_erase here).map (·.projectId)
  simp only [map_append, map_cons, map_nil] at taken ⊢
  rw [← append_assoc]
  exact (perm_append_singleton _ _).trans (taken.symm.append_right _)

theorem accept_held (inv : Accounted sys) (first : sys.mailbox = command :: rest) :
    (held { sys with mailbox := rest }).Nodup ∧
      (∀ pid, pid ∈ (sys.gate.accept command).activeProjects ↔
        pid ∈ held { sys with mailbox := rest }) ∧
      (sys.gate.accept command).active = (held { sys with mailbox := rest }).length := by
  have nodup := inv.distinct
  have projects := inv.projects
  have active := inv.active
  cases command with
  | acquire pid rank call =>
    have same : held sys = held { sys with mailbox := rest } := by
      simp only [held, first]
      rfl
    rw [same] at nodup active
    exact ⟨nodup,fun other => (projects other).trans (same ▸ Iff.rfl),active⟩
  | release pid =>
    have split : (held sys).Perm (pid :: held { sys with mailbox := rest }) := by
      simp only [held, first]
      exact perm_middle
    have both := split.nodup_iff.mp nodup
    obtain ⟨gone,kept⟩ := nodup_cons.mp both
    refine ⟨kept,?_,?_⟩
    · intro other
      simp only [ObservationGate.accept, Finset.mem_erase]
      rw [projects other, split.mem_iff, mem_cons]
      constructor
      · rintro ⟨apart,same | here⟩
        · exact absurd same apart
        · exact here
      · intro here
        exact ⟨fun same => gone (same ▸ here),.inr here⟩
    · have count := split.length_eq
      rw [length_cons] at count
      simp only [ObservationGate.accept]
      omega

theorem process_accounted (inv : Accounted sys) (first : sys.mailbox = command :: rest) :
    Accounted { sys with
      gate := (sys.gate.process sys.alive command).1, mailbox := rest, waiting := waiting
      granted := sys.granted ++ (sys.gate.process sys.alive command).2 } := by
  obtain ⟨nodup,projects,active⟩ := accept_held inv first
  have mine : ∀ pid call, Queued (sys.gate.accept command) pid call →
      call.projectId = pid ∧ call.id < sys.nextId := by
    intro pid call queued
    rcases accept_queued queued with old | ⟨rank,same⟩
    · exact ⟨inv.own pid call old,inv.known pid call old⟩
    have here : .acquire pid rank call ∈ sys.mailbox := by
      rw [first, same]
      exact mem_cons_self
    exact ⟨inv.sent pid rank call here,inv.numbered pid rank call here⟩
  have admits : Admits sys.alive (·.projectId) (sys.gate.accept command)
      (sys.gate.process sys.alive command) :=
    admitAll_admits fun pid call queued => (mine pid call queued).1
  have lined := lined_admitAll sys.alive 2 (lined_accept inv.lined command)
  have later : ∀ {pid rank call}, .acquire pid rank call ∈ rest →
      .acquire pid rank call ∈ sys.mailbox := by
    intro pid rank call here
    rw [first]
    exact mem_cons_of_mem command here
  have gathered : (held { sys with
      gate := (sys.gate.process sys.alive command).1, mailbox := rest, waiting := waiting
      granted := sys.granted ++ (sys.gate.process sys.alive command).2 }).Perm
      ((sys.gate.process sys.alive command).2.map (·.projectId) ++
        held { sys with mailbox := rest }) := by
    simp only [held, map_append, append_assoc]
    exact perm_append_comm_assoc _ _ _
  refine ⟨lined,?_,?_,?_,?_,?_,?_,?_⟩
  · exact fun pid call queued => (mine pid call (admits.queued _ _ queued)).1
  · exact fun pid rank call here => inv.sent pid rank call (later here)
  · exact fun pid call queued => (mine pid call (admits.queued _ _ queued)).2
  · exact fun pid rank call here => inv.numbered pid rank call (later here)
  · apply gathered.nodup_iff.mpr
    apply nodup_append.mpr
    refine ⟨admits.nodup,nodup,?_⟩
    intro pid new other old same
    subst same
    exact admits.idle pid new ((projects pid).mpr old)
  · intro pid
    rw [admits.projects, projects, ← mem_append]
    exact gathered.mem_iff.symm
  · rw [admits.active, active, gathered.length_eq, length_append, length_map]

theorem step_accounted {action : PermitAction} (inv : Accounted sys)
    (safe : KeepsGrant sys action) (step : Step sys action after) : Accounted after := by
  have step : sys.perform action = some after := step
  cases action with
  | request pid rank =>
    cases step
    refine accounted_of_moved inv rfl (Nat.le_succ _) ?_ ?_
    · intro other rank call here
      rcases mem_append.mp here with old | new
      · exact .inl old
      · cases mem_singleton.mp new
        exact .inr ⟨rfl,Nat.lt_succ_self _⟩
    · have same : ∀ call, [ObservationGateCommand.acquire pid rank call].filterMap
          released = [] := fun _ => rfl
      simp only [held, filterMap_append, same, append_nil]
      exact .refl _
  | process =>
    simp only [Permitting.perform] at step
    split at step
    · cases step
    next first =>
    cases step
    exact process_accounted inv first
  | build call =>
    simp only [Permitting.perform] at step
    split at step
    · next here =>
      cases step
      refine accounted_of_moved inv rfl le_rfl (fun _ _ _ => .inl) ?_
      exact (moved_map here).append_right _
    · cases step
  | abandon call =>
    simp only [Permitting.perform] at step
    split at step
    · cases step
      exact accounted_of_moved inv rfl le_rfl (fun _ _ _ => .inl) (.refl _)
    · rw [if_neg safe] at step
      cases step
  | dropPermit call =>
    simp only [Permitting.perform] at step
    split at step
    · next here =>
      cases step
      refine accounted_of_moved inv rfl le_rfl ?_ ?_
      · intro other rank waiter sent
        rcases mem_append.mp sent with old | new
        · exact .inl old
        · cases mem_singleton.mp new
      · have taken := (perm_cons_erase here).map (·.projectId)
        simp only [held, filterMap_append, append_assoc]
        refine List.Perm.append_left _ ?_
        rw [← append_assoc]
        refine (perm_append_singleton _ _).trans ?_
        exact taken.symm.append_right _
    · cases step

theorem run_accounted (run : Run (Guarded KeepsGrant Step) .start actions sys) : Accounted sys := by
  exact guarded_run_invariant Accounted step_accounted run start_accounted

end Held

section Settled
variable {sys : Permitting}

/-- Every message is processed, and every permit that was granted is built and dropped. -/
structure Settled (system : Permitting) : Prop where
  mailbox : system.mailbox = []
  granted : system.granted = []
  permits : system.permits = []

theorem settled_held (settled : Settled sys) : held sys = [] := by
  simp [held, settled.mailbox, settled.granted, settled.permits]

theorem settled_active (inv : Accounted sys) (settled : Settled sys) : sys.gate.active = 0 := by
  rw [inv.active, settled_held settled, length_nil]

theorem settled_projects (inv : Accounted sys) (settled : Settled sys) :
    sys.gate.activeProjects = ∅ := by
  apply Finset.eq_empty_of_forall_notMem
  intro pid active
  rw [inv.projects, settled_held settled] at active
  cases active

theorem settled_grants (inv : Accounted sys) (settled : Settled sys) (nobody : sys.waiting = [])
    (missing : sys.gate.queues.lookup pid = none) (rank : ObservationPriority) :
    ∃ after, Run Step sys [.request pid rank, .process] after ∧
      ⟨sys.nextId, pid⟩ ∈ after.granted := by
  have lone : ∀ waiter : ObservationCall,
      [⟨sys.nextId,pid⟩].contains waiter ↔ waiter = ⟨sys.nextId,pid⟩ := by
    intro waiter
    rw [contains_iff_mem, mem_singleton]
  have fresh : ∀ other, ¬ Queued sys.gate other ⟨sys.nextId,pid⟩ :=
    fun other queued => absurd (inv.known other _ queued) (lt_irrefl _)
  have admitted : ⟨sys.nextId,pid⟩ ∈ (sys.gate.process
      (fun waiter => [⟨sys.nextId,pid⟩].contains waiter)
      (.acquire pid rank ⟨sys.nextId,pid⟩)).2 :=
    lone_waiter_admitted inv.lined (settled_active inv settled) (settled_projects inv settled)
      inv.own rfl missing lone fresh
  have grants : ∃ after, execute Permitting.perform sys [.request pid rank, .process] = some after ∧
        ⟨sys.nextId,pid⟩ ∈ after.granted := by
    simp only [execute, Permitting.perform, settled.mailbox, nobody, settled.granted,
      nil_append, Option.bind_some, Option.some.injEq, exists_eq_left']
    exact admitted
  obtain ⟨after,ran,granted⟩ := grants
  exact ⟨after,run_of_execute ran,granted⟩

end Settled

/-- Where no future is dropped between grant and permit, a settled gate has all slots back,
    grants the next call, and the resume gate shuts down. -/
theorem gate_permits_return {maxActive maxQueued : Nat} (room : 0 < maxActive) : (∀ actions system,
      Run (Guarded TermloopResume.KeepsGrant (TermloopResume.Step maxActive maxQueued)) .start
        actions system →
      TermloopResume.Settled system →
        system.gate.active = 0 ∧ system.admitted = 0 ∧ system.gate.shutdownWaiters = [] ∧
        (system.stopped = false → ∀ projectId, ∃ after,
          Run (TermloopResume.Step maxActive maxQueued) system
            [.enter projectId, .reserve ⟨system.nextId, projectId⟩,
              .send ⟨system.nextId, projectId⟩, .receive, .turn] after ∧
          ⟨system.nextId, projectId⟩ ∈ after.granted) ∧
        ∀ id, ∃ after, Run (TermloopResume.Step maxActive maxQueued) system
          [.stop id, .sendShutdown id, .receive, .rest] after ∧ id ∈ after.finished) ∧
    ∀ actions system, Run (Guarded KeepsGrant Step) .start actions system → Settled system →
      system.gate.active = 0 ∧ system.gate.activeProjects = ∅ ∧
      (system.waiting = [] → ∀ projectId, system.gate.queues.lookup projectId = none →
        ∀ priority, ∃ after, Run Step system [.request projectId priority, .process] after ∧
          ⟨system.nextId, projectId⟩ ∈ after.granted) := by
  constructor
  · intro actions system run settled
    have inv := TermloopResume.run_accounted run
    exact ⟨TermloopResume.settled_active inv settled,
      TermloopResume.settled_admitted inv settled room,TermloopResume.settled_waiters inv settled,
      TermloopResume.settled_grants inv settled room,TermloopResume.settled_shuts_down inv settled⟩
  · intro actions system run settled
    have inv := run_accounted run
    exact ⟨settled_active inv settled,settled_projects inv settled,
      fun nobody _ missing => settled_grants inv settled nobody missing⟩

theorem dropped_permits_return :
    (∃ system, Run (Guarded TermloopResume.KeepsGrant (TermloopResume.Step 1 1)) .start
        [.enter "project", .reserve ⟨0, "project"⟩, .send ⟨0, "project"⟩, .receive, .turn, .rest,
          .build ⟨0, "project"⟩, .dropPermit ⟨0, "project"⟩, .receive, .rest] system ∧
      TermloopResume.Settled system ∧ system.gate.active = 0 ∧ system.admitted = 0) ∧
    ∃ system, Run (Guarded KeepsGrant Step) .start
        [.request "project" .explicit, .process, .build ⟨0, "project"⟩,
          .dropPermit ⟨0, "project"⟩, .process] system ∧
      Settled system ∧ system.gate.active = 0 ∧ system.gate.activeProjects = ∅ := by
  have back := @gate_permits_return 1 1 Nat.one_pos
  constructor
  · refine exists_reached ⟨_,Run.cons ⟨trivial,rfl⟩ (Run.cons ⟨trivial,rfl⟩
      (Run.cons ⟨trivial,rfl⟩ (Run.cons ⟨trivial,rfl⟩ (Run.cons ⟨trivial,rfl⟩
      (Run.cons ⟨trivial,rfl⟩ (Run.cons ⟨trivial,rfl⟩ (Run.cons ⟨trivial,rfl⟩
      (Run.cons ⟨trivial,rfl⟩ (run_single ⟨trivial,rfl⟩))))))))),⟨rfl,rfl,rfl,rfl,rfl,rfl⟩⟩ ?_
    intro system run settled
    obtain ⟨active,admitted,-⟩ := back.1 _ _ run settled
    exact ⟨active,admitted⟩
  · refine exists_reached ⟨_,Run.cons ⟨trivial,rfl⟩ (Run.cons ⟨trivial,rfl⟩
      (Run.cons ⟨trivial,rfl⟩ (Run.cons ⟨trivial,rfl⟩ (run_single ⟨trivial,rfl⟩)))),
      ⟨rfl,rfl,rfl⟩⟩ ?_
    intro system run settled
    obtain ⟨count,projects,-⟩ := back.2 _ _ run settled
    exact ⟨count,projects⟩

/-- A future dropped right after its grant keeps the slot for ever, and its Project counts
    as observed. -/
theorem grant_dropped_with_its_future : (∃ system, Run (TermloopResume.Step 1 1) .start
        [.enter "project", .reserve ⟨0, "project"⟩, .send ⟨0, "project"⟩, .receive, .turn, .rest,
          .abandon ⟨0, "project"⟩] system ∧
      TermloopResume.Settled system ∧ system.gate.active = 1 ∧ system.admitted = 1) ∧
    ∃ system, Run Step .start
        [.request "project" .explicit, .process, .abandon ⟨0, "project"⟩] system ∧
      Settled system ∧ system.gate.active = 1 ∧ "project" ∈ system.gate.activeProjects := by
  constructor
  · exact ⟨_,Run.cons rfl (Run.cons rfl (Run.cons rfl (Run.cons rfl (Run.cons rfl
      (Run.cons rfl (run_single rfl)))))),⟨rfl,rfl,rfl,rfl,rfl,rfl⟩,rfl,rfl⟩
  · exact ⟨_,Run.cons rfl (Run.cons rfl (run_single rfl)),⟨rfl,rfl,rfl⟩,rfl,
      Finset.mem_singleton_self _⟩

end TermloopPermits
