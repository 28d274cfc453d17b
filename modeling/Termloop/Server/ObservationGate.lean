import Mathlib.Data.Finset.Basic
import Termloop.Lib.KeyedTables
import Termloop.Lib.Runs

/-!
The gate in front of Git observations: two run at a time, at most one a Project, and
Projects take turns. A waiter is the sending half of a oneshot channel; sending to it
fails once its receiver is dropped. Only the send looks at the receiver and every
sender is used once, so a drop during a message counts as one before or after it.
-/
namespace TermloopObservation
open TermloopRuns TermloopKeyed List

inductive ObservationPriority where
  | explicit | background

structure ProjectObservationQueue (Waiter : Type) where
  (explicit background : List Waiter)

inductive ObservationGateCommand (Waiter : Type) where
  | acquire (projectId : String) (priority : ObservationPriority) (ready : Waiter)
  | release (projectId : String)

structure ObservationGate (Waiter : Type) where
  queues : AList fun _ : String => ProjectObservationQueue Waiter
  projects : List String
  activeProjects : Finset String
  active : Nat

variable {Waiter : Type}

namespace ProjectObservationQueue

def waiting (queue : ProjectObservationQueue Waiter) : List Waiter :=
  queue.explicit ++ queue.background

def push (priority : ObservationPriority) (ready : Waiter)
    (queue : ProjectObservationQueue Waiter) : ProjectObservationQueue Waiter :=
  match priority with
  | .explicit => { queue with explicit := queue.explicit ++ [ready] }
  | .background => { queue with background := queue.background ++ [ready] }

def pop : ProjectObservationQueue Waiter → Option Waiter × ProjectObservationQueue Waiter
  | ⟨ready :: rest, background⟩ => (some ready, ⟨rest, background⟩)
  | ⟨[], ready :: rest⟩ => (some ready, ⟨[], rest⟩)
  | ⟨[], []⟩ => (none, ⟨[], []⟩)

def isEmpty (queue : ProjectObservationQueue Waiter) : Bool :=
  queue.explicit.isEmpty && queue.background.isEmpty

end ProjectObservationQueue

namespace ObservationGate

def empty : ObservationGate Waiter := ⟨∅, [], ∅, 0⟩

def accept (gate : ObservationGate Waiter) : ObservationGateCommand Waiter → ObservationGate Waiter
  | .acquire projectId priority ready =>
    let queue := (gate.queues.lookup projectId).getD ⟨[], []⟩
    { gate with
      queues := gate.queues.insert projectId (queue.push priority ready)
      projects := if projectId ∈ gate.projects then gate.projects
        else gate.projects ++ [projectId] }
  | .release projectId =>
    { gate with
      active := gate.active - 1, activeProjects := gate.activeProjects.erase projectId }

/-- The Project at the front goes to the end of the line, or leaves with its last
    waiter. -/
def putBack (gate : ObservationGate Waiter) (projectId : String) (rest : List String)
    (queue : ProjectObservationQueue Waiter) : ObservationGate Waiter :=
  if queue.isEmpty then { gate with projects := rest, queues := gate.queues.erase projectId }
  else { gate with
    projects := rest ++ [projectId], queues := gate.queues.insert projectId queue }

def enter (gate : ObservationGate Waiter) (projectId : String) : ObservationGate Waiter :=
  { gate with
    active := gate.active + 1, activeProjects := insert projectId gate.activeProjects }

/-- One pass of at most `turns` turns, which ends with the first waiter it admits. -/
def scan (alive : Waiter → Bool) :
    Nat → ObservationGate Waiter → ObservationGate Waiter × Option Waiter
  | 0, gate => (gate, none)
  | turns + 1, gate =>
    match gate.projects with
    | [] => (gate, none)
    | projectId :: rest =>
      if projectId ∈ gate.activeProjects then
        scan alive turns { gate with projects := rest ++ [projectId] }
      else
        match gate.queues.lookup projectId with
        | none => scan alive turns { gate with projects := rest }
        | some queue =>
          match queue.pop with
          | (none, left) => scan alive turns (gate.putBack projectId rest left)
          | (some ready, left) =>
            if alive ready then ((gate.putBack projectId rest left).enter projectId, some ready)
            else scan alive turns (gate.putBack projectId rest left)

/-- Passes repeat while a slot is free and the last one admitted. Each takes a slot, so two
    can admit. -/
def admitAll (alive : Waiter → Bool) :
    Nat → ObservationGate Waiter → ObservationGate Waiter × List Waiter
  | 0, gate => (gate, [])
  | passes + 1, gate =>
    if gate.active < 2 then
      match gate.scan alive gate.projects.length with
      | (gate, none) => (gate, [])
      | (gate, some ready) =>
        let rest := gate.admitAll alive passes
        (rest.1, ready :: rest.2)
    else (gate, [])

/-- One turn of the gate's loop: the message, then the admissions it makes possible. -/
def process (alive : Waiter → Bool) (command : ObservationGateCommand Waiter)
    (gate : ObservationGate Waiter) : ObservationGate Waiter × List Waiter :=
  (gate.accept command).admitAll alive 2

end ObservationGate

def Queued (gate : ObservationGate Waiter) (projectId : String) (ready : Waiter) : Prop :=
  ∃ queue, gate.queues.lookup projectId = some queue ∧ ready ∈ queue.waiting

/-- Exactly the Projects with a queue stand in line, each of them once. -/
structure Lined (gate : ObservationGate Waiter) : Prop where
  nodup : gate.projects.Nodup
  listed : ∀ projectId, projectId ∈ gate.projects ↔ (gate.queues.lookup projectId).isSome

section Queue
variable {ready : Waiter} {pid other : String} {rest : List String}
  {left queue : ProjectObservationQueue Waiter}

theorem mem_push {other : Waiter} :
    other ∈ (queue.push rank ready).waiting ↔ other ∈ queue.waiting ∨ other = ready := by
  cases rank <;> simp [ProjectObservationQueue.push, ProjectObservationQueue.waiting] <;> tauto

theorem pop_none (popped : queue.pop = (none, left)) : queue.waiting = [] ∧ left.waiting = [] := by
  obtain ⟨explicit,background⟩ := queue
  cases explicit with
  | cons first rest => cases popped
  | nil =>
    cases background with
    | cons first rest => cases popped
    | nil =>
      cases popped
      exact ⟨rfl,rfl⟩

theorem pop_some (popped : queue.pop = (some ready, left)) :
    queue.waiting = ready :: left.waiting := by
  obtain ⟨explicit,background⟩ := queue
  cases explicit with
  | cons first rest =>
    cases popped
    rfl
  | nil =>
    cases background with
    | cons first rest =>
      cases popped
      rfl
    | nil => cases popped

theorem isEmpty_waiting : queue.isEmpty ↔ queue.waiting = [] := by
  simp [ProjectObservationQueue.isEmpty, ProjectObservationQueue.waiting]

end Queue

section Line
variable {gate : ObservationGate Waiter} {pid : String} {rest : List String}

theorem putBack_lookup (gate : ObservationGate Waiter) (pid : String) (rest : List String)
    (left : ProjectObservationQueue Waiter) (other : String) :
    (gate.putBack pid rest left).queues.lookup other =
      if other = pid then (if left.isEmpty then none else some left)
      else gate.queues.lookup other := by
  unfold ObservationGate.putBack
  by_cases mine : other = pid
  · subst mine
    split
    · simp
    · simp
  · split
    · exact AList.lookup_erase_ne mine
    · exact AList.lookup_insert_ne mine

theorem putBack_frame (gate : ObservationGate Waiter) (pid : String) (rest : List String)
    (left : ProjectObservationQueue Waiter) :
    (gate.putBack pid rest left).activeProjects = gate.activeProjects ∧
      (gate.putBack pid rest left).active = gate.active := by
  unfold ObservationGate.putBack
  split <;> exact ⟨rfl,rfl⟩

theorem putBack_projects :
    (gate.putBack pid rest left).projects = rest ++ if left.isEmpty then [] else [pid] := by
  unfold ObservationGate.putBack
  split <;> simp

theorem lined_rotate (lined : Lined gate) (front : gate.projects = pid :: rest) :
    Lined { gate with projects := rest ++ [pid] } := by
  have turned : (rest ++ [pid]).Perm gate.projects := by
    rw [front]
    exact perm_append_singleton pid rest
  exact ⟨turned.nodup_iff.mpr lined.nodup,fun other =>
    turned.mem_iff.trans (lined.listed other)⟩

theorem lined_putBack (lined : Lined gate) (front : gate.projects = pid :: rest)
    : Lined (gate.putBack pid rest left) := by
  have nodup := lined.nodup
  rw [front, nodup_cons] at nodup
  constructor
  · rw [putBack_projects]
    split
    · rw [append_nil]
      exact nodup.2
    · exact (perm_append_singleton pid rest).nodup_iff.mpr (front ▸ lined.nodup)
  · intro other
    have mem := lined.listed other
    rw [front, mem_cons] at mem
    rw [putBack_projects, putBack_lookup]
    by_cases mine : other = pid
    · subst mine
      by_cases emptied : left.isEmpty
      · simp [emptied, nodup.1]
      · simp [emptied]
    · rw [if_neg mine, ← mem]
      split <;> simp [mine]

theorem lined_enter (lined : Lined gate) : Lined (gate.enter pid) :=
  ⟨lined.nodup,lined.listed⟩

theorem lined_accept (lined : Lined gate) (command : ObservationGateCommand Waiter) :
    Lined (gate.accept command) := by
  cases command with
  | release pid => exact ⟨lined.nodup,lined.listed⟩
  | acquire pid rank ready =>
    have mem := lined.listed
    constructor
    · simp only [ObservationGate.accept]
      split
      · exact lined.nodup
      next new =>
      exact (perm_append_singleton pid _).nodup_iff.mpr (nodup_cons.mpr ⟨new,lined.nodup⟩)
    · intro other
      simp only [ObservationGate.accept]
      by_cases mine : other = pid
      · subst mine
        rw [AList.lookup_insert]
        split <;> simp_all
      · rw [AList.lookup_insert_ne mine, ← mem]
        split <;> simp [mine]

theorem accept_queued {command : ObservationGateCommand Waiter}
    (queued : Queued (gate.accept command) pid ready) :
    Queued gate pid ready ∨ ∃ rank, command = .acquire pid rank ready := by
  cases command with
  | release other => exact .inl queued
  | acquire other rank waiter =>
    obtain ⟨queue,hit,here⟩ := queued
    simp only [ObservationGate.accept] at hit
    rcases lookup_insert_cases hit with ⟨rfl,rfl⟩ | ⟨-,hit⟩
    · rcases mem_push.mp here with old | new
      · cases pre : gate.queues.lookup pid with
        | none =>
          rw [pre] at old
          cases old
        | some queue =>
          rw [pre] at old
          exact .inl ⟨queue,pre,old⟩
      · exact .inr ⟨rank,new ▸ rfl⟩
    · exact .inl ⟨queue,hit,here⟩

end Line

section Scan
variable {gate after : ObservationGate Waiter} {alive : Waiter → Bool}

/-- A Project that a pass cannot serve: it is active, or nobody alive waits for it. -/
def Served (alive : Waiter → Bool) (gate : ObservationGate Waiter) (projectId : String) : Prop :=
  projectId ∈ gate.activeProjects ∨ ∀ ready, Queued gate projectId ready → alive ready = false

/-- No cancelled waiter of a Project without an observation stands before its first living
    one. -/
def NextAlive (alive : Waiter → Bool) (gate : ObservationGate Waiter) : Prop :=
  ∀ projectId queue, projectId ∉ gate.activeProjects →
    gate.queues.lookup projectId = some queue → (∃ ready ∈ queue.waiting, alive ready = true) →
      ∃ ready, queue.pop.1 = some ready ∧ alive ready = true

theorem served_putBack (served : Served alive gate other) (apart : ¬ other = pid) :
    Served alive (gate.putBack pid rest left) other := by
  rcases served with active | dead
  · exact .inl ((putBack_frame gate pid rest left).1 ▸ active)
  refine .inr fun ready queued => dead ready ?_
  obtain ⟨queue,hit,here⟩ := queued
  rw [putBack_lookup, if_neg apart] at hit
  exact ⟨queue,hit,here⟩

theorem served_self (dead : ∀ ready ∈ left.waiting, alive ready = false) :
    Served alive (gate.putBack pid rest left) pid := by
  refine .inr fun ready queued => ?_
  obtain ⟨queue,hit,here⟩ := queued
  rw [putBack_lookup, if_pos rfl] at hit
  split at hit
  · cases hit
  cases hit
  exact dead ready here

theorem nextAlive_putBack (next : NextAlive alive gate)
    (dead : ∀ ready ∈ left.waiting, alive ready = false) :
    NextAlive alive (gate.putBack pid rest left) := by
  intro other queue idle hit live
  rw [(putBack_frame gate pid rest left).1] at idle
  rw [putBack_lookup] at hit
  split at hit
  · split at hit
    · cases hit
    cases hit
    obtain ⟨ready,here,lives⟩ := live
    rw [dead ready here] at lives
    cases lives
  · exact next other queue idle hit live

theorem nextAlive_enter (next : NextAlive alive gate) :
    NextAlive alive ((gate.putBack pid rest left).enter pid) := by
  intro other queue idle hit live
  have apart : ¬ other = pid := by
    intro same
    exact idle (by simp [ObservationGate.enter, same])
  have rested : other ∉ gate.activeProjects := by
    intro active
    apply idle
    simp only [ObservationGate.enter, (putBack_frame gate pid rest left).1]
    exact Finset.mem_insert_of_mem active
  simp only [ObservationGate.enter, putBack_lookup, if_neg apart] at hit
  exact next other queue rested hit live

/-- A full pass admits and keeps its promise, or leaves only served Projects. -/
def Swept (alive : Waiter → Bool) (result : ObservationGate Waiter × Option Waiter) : Prop :=
  Lined result.1 ∧
    match result.2 with
    | none => ∀ projectId ∈ result.1.projects, Served alive result.1 projectId
    | some _ => NextAlive alive result.1

theorem scan_sweeps (lined : Lined gate)
    (next : NextAlive alive gate) (line : gate.projects = ahead ++ behind)
    (long : ahead.length = turns) (served : ∀ pid ∈ behind, Served alive gate pid) :
    Swept alive (gate.scan alive turns) := by
  -- the turns still to come are the Projects ahead, and those behind are done
  induction turns generalizing gate ahead behind with
  | zero =>
    rw [length_eq_zero_iff] at long
    subst long
    refine ⟨lined,fun pid here => served pid ?_⟩
    rwa [ObservationGate.scan, line] at here
  | succ turns ih =>
    cases ahead with
    | nil => cases long
    | cons pid ahead =>
      have front : gate.projects = pid :: (ahead ++ behind) := line
      have shorter : ahead.length = turns := by simpa using long
      have apart : ∀ other ∈ behind, ¬ other = pid := by
        intro other later same
        have nodup := lined.nodup
        rw [front, nodup_cons] at nodup
        exact nodup.1 (mem_append_right _ (same ▸ later))
      rw [ObservationGate.scan, front]
      dsimp only
      split
      · next active =>
        apply ih (lined_rotate lined front) next (append_assoc _ _ _) shorter
        intro other later
        rcases mem_append.mp later with old | here
        · exact served other old
        · rw [mem_singleton.mp here]
          exact .inl active
      · next idle =>
        split
        · next missing =>
          have mem := (lined.listed pid).mp (front ▸ mem_cons_self)
          rw [missing] at mem
          cases mem
        · next queue hit =>
          have continues : ∀ left : ProjectObservationQueue Waiter,
              (∀ ready ∈ left.waiting, alive ready = false) →
              Swept alive ((gate.putBack pid (ahead ++ behind) left).scan alive turns) := by
            intro left dead
            refine ih (lined_putBack lined front) (nextAlive_putBack next dead)
              ((putBack_projects).trans (append_assoc _ _ _)) shorter ?_
            intro other later
            rcases mem_append.mp later with old | here
            · exact served_putBack (served other old) (apart other old)
            split at here
            · cases here
            rw [mem_singleton.mp here]
            exact served_self dead
          split
          · next left popped =>
            apply continues left
            rw [(pop_none popped).2]
            exact fun _ here => absurd here not_mem_nil
          · next ready left popped =>
            have order := pop_some popped
            split
            · exact ⟨lined_enter (lined_putBack lined front),nextAlive_enter next⟩
            next cancelled =>
            apply continues left
            intro other here
            by_contra lives
            rw [Bool.not_eq_false] at lives
            have waits : other ∈ queue.waiting := order ▸ mem_cons_of_mem ready here
            obtain ⟨first,head,fresh⟩ := next pid queue idle hit ⟨other,waits,lives⟩
            rw [popped] at head
            cases head
            exact cancelled fresh

/-- A pass admits one living queued waiter to a Project without an observation, or nobody;
    nobody is queued by it, and nobody alive is lost. -/
structure Passes (alive : Waiter → Bool) (gate : ObservationGate Waiter)
    (result : ObservationGate Waiter × Option Waiter) : Prop where
  queued : ∀ projectId ready, Queued result.1 projectId ready → Queued gate projectId ready
  keeps : ∀ projectId ready, Queued gate projectId ready → alive ready = true →
    Queued result.1 projectId ready ∨ result.2 = some ready
  admits : match result.2 with
    | none => result.1.activeProjects = gate.activeProjects ∧ result.1.active = gate.active
    | some ready => alive ready = true ∧ ∃ projectId ∉ gate.activeProjects,
        Queued gate projectId ready ∧ result.1.active = gate.active + 1 ∧
          result.1.activeProjects = insert projectId gate.activeProjects

theorem queued_putBack (hit : gate.queues.lookup pid = some queue)
    (fewer : left.waiting ⊆ queue.waiting)
    (queued : Queued (gate.putBack pid rest left) other ready) : Queued gate other ready := by
  obtain ⟨kept,here,waits⟩ := queued
  rw [putBack_lookup] at here
  split at here
  · next same =>
    split at here
    · cases here
    cases here
    exact ⟨queue,same ▸ hit,fewer waits⟩
  · exact ⟨kept,here,waits⟩

theorem putBack_queued (hit : gate.queues.lookup pid = some queue)
    (kept : ready ∈ queue.waiting → ready ∈ left.waiting) (queued : Queued gate other ready) :
    Queued (gate.putBack pid rest left) other ready := by
  obtain ⟨held,here,waits⟩ := queued
  by_cases mine : other = pid
  · subst mine
    rw [hit] at here
    cases here
    have stays := kept waits
    have full : ¬ left.isEmpty := by
      intro emptied
      rw [(isEmpty_waiting).mp emptied] at stays
      cases stays
    exact ⟨left,by rw [putBack_lookup, if_pos rfl, if_neg full],stays⟩
  · exact ⟨held,by rw [putBack_lookup, if_neg mine, here],waits⟩

theorem passes_putBack
    (hit : gate.queues.lookup pid = some queue) (fewer : left.waiting ⊆ queue.waiting)
    (kept : ∀ ready ∈ queue.waiting, alive ready → ready ∈ left.waiting)
    (passes : Passes alive (gate.putBack pid rest left) result) :
    Passes alive gate result := by
  obtain ⟨projects,count⟩ := putBack_frame gate pid rest left
  obtain ⟨queued,keeps,admits⟩ := passes
  refine ⟨fun other ready waits => queued_putBack hit fewer (queued other ready waits),?_,?_⟩
  · intro other ready waits lives
    exact keeps other ready (putBack_queued hit (fun here => kept ready here lives) waits) lives
  · rw [projects, count] at admits
    split at admits
    · exact admits
    obtain ⟨lives,other,idle,waits,rest⟩ := admits
    exact ⟨lives,other,idle,queued_putBack hit fewer waits,rest⟩

theorem scan_passes (alive : Waiter → Bool) (turns : Nat) (gate : ObservationGate Waiter) :
    Passes alive gate (gate.scan alive turns) := by
  have nobody : ∀ gate : ObservationGate Waiter, Passes alive gate (gate, none) :=
    fun _ => ⟨fun _ _ waits => waits,fun _ _ waits _ => .inl waits,rfl,rfl⟩
  induction turns generalizing gate with
  | zero => exact nobody gate
  | succ turns ih =>
    unfold ObservationGate.scan
    split
    · exact nobody gate
    next pid rest front =>
    split
    · obtain ⟨queued,keeps,admits⟩ := ih { gate with projects := rest ++ [pid] }
      exact ⟨queued,keeps,admits⟩
    next idle =>
    split
    · obtain ⟨queued,keeps,admits⟩ := ih { gate with projects := rest }
      exact ⟨queued,keeps,admits⟩
    next queue hit =>
    split
    · next left popped =>
      obtain ⟨nobody_before,nobody_left⟩ := pop_none popped
      apply passes_putBack hit _ _ (ih _)
      · rw [nobody_left]
        exact nil_subset _
      · rw [nobody_before]
        exact fun _ here => absurd here not_mem_nil
    · next ready left popped =>
      have order := pop_some popped
      have fewer : left.waiting ⊆ queue.waiting := order ▸ subset_cons_self ready _
      split
      · next lives =>
        obtain ⟨projects,count⟩ := putBack_frame gate pid rest left
        refine ⟨fun other waiter waits => queued_putBack hit fewer waits,?_,lives,
          pid,idle,⟨queue,hit,order ▸ mem_cons_self⟩,?_,?_⟩
        · intro other waiter waits _
          by_cases first : waiter = ready
          · exact .inr (first ▸ rfl)
          · refine .inl (putBack_queued hit (fun here => ?_) waits)
            rw [order] at here
            exact (mem_cons.mp here).resolve_left first
        · simp only [ObservationGate.enter, count]
        · simp only [ObservationGate.enter, projects]
      · next cancelled =>
        apply passes_putBack hit fewer _ (ih _)
        intro waiter here lives
        rw [order] at here
        rcases mem_cons.mp here with first | later
        · exact absurd (first ▸ lives) cancelled
        · exact later

theorem scan_lined (lined : Lined gate) : Lined (gate.scan alive turns).1 := by
  induction turns generalizing gate with
  | zero => exact lined
  | succ turns ih =>
    unfold ObservationGate.scan
    split
    · exact lined
    next pid rest front =>
    split
    · exact ih (lined_rotate lined front)
    split
    · next missing =>
      have mem := (lined.listed pid).mp (front ▸ mem_cons_self)
      rw [missing] at mem
      cases mem
    · split
      · exact ih (lined_putBack lined front)
      split
      · exact lined_enter (lined_putBack lined front)
      · exact ih (lined_putBack lined front)

theorem lined_admitAll (alive : Waiter → Bool) (passes : Nat) (lined : Lined gate) :
    Lined (gate.admitAll alive passes).1 := by
  induction passes generalizing gate with
  | zero => exact lined
  | succ passes ih =>
    unfold ObservationGate.admitAll
    have swept : Lined (gate.scan alive gate.projects.length).1 := scan_lined lined
    split
    · split
      · next scanned =>
        rw [scanned] at swept
        exact swept
      · next scanned =>
        rw [scanned] at swept
        exact ih swept
    · exact lined

theorem admitAll_conserves (lined : Lined gate) (next : NextAlive alive gate)
    (slots : 2 ≤ gate.active + passes) :
    Lined (gate.admitAll alive passes).1 ∧ ((gate.admitAll alive passes).1.active < 2 →
      ∀ pid ready, pid ∉ (gate.admitAll alive passes).1.activeProjects →
        Queued (gate.admitAll alive passes).1 pid ready → alive ready = false) := by
  induction passes generalizing gate with
  | zero =>
    refine ⟨lined,fun free => ?_⟩
    have full : ¬ gate.active < 2 := by omega
    exact absurd free full
  | succ passes ih =>
    unfold ObservationGate.admitAll
    split
    · have swept := scan_sweeps lined next (append_nil _).symm rfl
        (fun _ here => absurd here not_mem_nil)
      have admits := (scan_passes alive gate.projects.length gate).admits
      split
      · next swept_gate scanned =>
        rw [scanned] at swept
        refine ⟨swept.1,fun _ pid ready idle queued => ?_⟩
        have mem : pid ∈ swept_gate.projects := by
          obtain ⟨queue,hit,-⟩ := queued
          exact (swept.1.listed pid).mpr (hit ▸ rfl)
        rcases swept.2 pid mem with active | dead
        · exact absurd active idle
        · exact dead ready queued
      · next admitted ready scanned =>
        rw [scanned] at swept admits
        obtain ⟨-,-,-,-,count,-⟩ := admits
        dsimp only at count
        exact ih swept.1 swept.2 (by omega)
    · next full => exact ⟨lined,fun free => absurd free full⟩

theorem process_conserves (lined : Lined gate)
    (next : (gate.accept command).active < 2 → NextAlive alive (gate.accept command)) :
    Lined (gate.process alive command).1 ∧ ((gate.process alive command).1.active < 2 →
      ∀ pid ready, pid ∉ (gate.process alive command).1.activeProjects →
        Queued (gate.process alive command).1 pid ready → alive ready = false) := by
  have accepted := lined_accept lined command
  by_cases free : (gate.accept command).active < 2
  · exact admitAll_conserves accepted (next free) (Nat.le_add_left 2 _)
  have idle : gate.process alive command = (gate.accept command, []) := by
    unfold ObservationGate.process ObservationGate.admitAll
    rw [if_neg free]
  rw [idle]
  exact ⟨accepted,fun slot => absurd slot free⟩

end Scan

section Runs
variable [DecidableEq Waiter]

structure Observing (Waiter : Type) where
  gate : ObservationGate Waiter
  dropped : List Waiter

inductive ObservingEvent (Waiter : Type) where
  | message (command : ObservationGateCommand Waiter)
  | drop (ready : Waiter)

def Observing.alive (system : Observing Waiter) (ready : Waiter) : Bool :=
  !system.dropped.contains ready

def Observing.perform (system : Observing Waiter) : ObservingEvent Waiter → Observing Waiter
  | .message command => { system with gate := (system.gate.process system.alive command).1 }
  | .drop ready => { system with dropped := ready :: system.dropped }

def Observing.Step (system : Observing Waiter) (event : ObservingEvent Waiter)
    (after : Observing Waiter) : Prop :=
  system.perform event = after

/-- With a free slot, nobody alive is queued for a Project without an observation. -/
def Conserving (system : Observing Waiter) : Prop :=
  system.gate.active < 2 → ∀ projectId ready, projectId ∉ system.gate.activeProjects →
    Queued system.gate projectId ready → system.alive ready = false

/-- After the message, with a free slot, each unobserved Project that somebody alive waits
    for has a living waiter next. -/
def MessageSafe (system : Observing Waiter) : ObservingEvent Waiter → Prop
  | .message command => (system.gate.accept command).active < 2 →
      NextAlive system.alive (system.gate.accept command)
  | .drop _ => True

theorem step_conserving (sys : Observing Waiter) (event : ObservingEvent Waiter)
    (after : Observing Waiter) (inv : Lined sys.gate ∧ Conserving sys)
    (safe : MessageSafe sys event) (step : sys.Step event after) :
    Lined after.gate ∧ Conserving after := by
  subst step
  cases event with
  | message command => exact process_conserves inv.1 safe
  | drop ready =>
    refine ⟨inv.1,fun free pid other idle queued => ?_⟩
    have dead := inv.2 free pid other idle queued
    simp only [Observing.alive, Observing.perform, Bool.not_eq_false'] at dead ⊢
    exact contains_iff_mem.mpr (mem_cons_of_mem _ (contains_iff_mem.mp dead))

/-- Where messages find no cancelled waiter before a living one, the gate leaves nobody
    waiting whom it could admit. -/
theorem observation_gate_conserves_work {events : List (ObservingEvent Waiter)}
    {after : Observing Waiter}
    (run : Run (Guarded MessageSafe Observing.Step) { gate := .empty, dropped := [] } events
      after) : Conserving after := by
  have lined : Lined (ObservationGate.empty : ObservationGate Waiter) :=
    ⟨nodup_nil,fun _ => by simp [ObservationGate.empty]⟩
  have start : Conserving { gate := (.empty : ObservationGate Waiter), dropped := [] } := by
    rintro - projectId ready - ⟨queue,found,-⟩
    cases found
  exact (guarded_run_invariant (fun system => Lined system.gate ∧ Conserving system)
    (step_conserving _ _ _) run ⟨lined,start⟩).2

end Runs

theorem queued_observation_follows :
    ∃ after : Observing Nat, Run (Guarded MessageSafe Observing.Step)
        { gate := .empty, dropped := [] }
        [.message (.acquire "project" .explicit 1), .message (.acquire "project" .background 2),
          .message (.release "project")] after ∧
      after.gate.active = 1 ∧ Conserving after := by
  have living : ∀ gate : ObservationGate Nat, NextAlive (fun _ => true) gate := by
    rintro gate projectId queue - - ⟨ready,here,-⟩
    cases popped : queue.pop with
    | mk first left =>
      cases first with
      | none =>
        rw [(pop_none popped).1] at here
        cases here
      | some first => exact ⟨first,rfl,rfl⟩
  exact exists_reached ⟨_,Run.cons ⟨fun _ => living _,rfl⟩ (Run.cons ⟨fun _ => living _,rfl⟩
    (run_single ⟨fun _ => living _,rfl⟩)),rfl⟩ fun _ run _ => observation_gate_conserves_work run

/-- A cancelled waiter takes its Project's only turn: the living one behind it is not
    admitted, with both slots free. -/
theorem cancelled_waiter_stops_scan :
    ∃ after : Observing Nat, Run Observing.Step { gate := .empty, dropped := [] }
        [.message (.acquire "project" .explicit 1), .message (.acquire "project" .explicit 2),
          .message (.acquire "project" .explicit 3), .drop 2, .message (.release "project")]
        after ∧
      after.gate.active = 0 ∧ after.gate.activeProjects = ∅ ∧ Queued after.gate "project" 3 ∧
      ¬ Conserving after := by
  refine ⟨_,Run.cons rfl (Run.cons rfl (Run.cons rfl (Run.cons rfl (run_single rfl)))),rfl,rfl,
    ⟨⟨[3],[]⟩,rfl,mem_singleton.mpr rfl⟩,?_⟩
  intro conserving
  have dropped := conserving (by decide) "project" 3 (Finset.notMem_empty _)
    ⟨⟨[3],[]⟩,rfl,mem_singleton.mpr rfl⟩
  cases dropped

end TermloopObservation
