import Mathlib.Data.List.Nodup
import Mathlib.Logic.Function.Basic

/-!
The grids at which new PTYs open, by Session and for Sessions never shown. The map of grids and
the order in which they leave are written apart; a restart replays what was remembered through
the same insertion.
-/
namespace TermloopGrids
open List

def maxRememberedGrids : Nat := 512

structure TerminalGrid where
  (rows cols : UInt16)

def TerminalGrid.fallback : TerminalGrid := ⟨24, 80⟩

structure TerminalGridMemory where
  latest : Option TerminalGrid
  sessions : List (String × TerminalGrid)

structure SpawnGrids where
  latest : Option TerminalGrid := none
  sessions : String → Option TerminalGrid := fun _ => none
  order : List String := []

/-- The oldest Sessions leave the order, and with it the map. -/
def evict : List String → (String → Option TerminalGrid) →
    List String × (String → Option TerminalGrid)
  | [], sessions => ([], sessions)
  | evicted :: order, sessions =>
    if order.length + 1 > maxRememberedGrids then
      evict order (Function.update sessions evicted none)
    else (evicted :: order, sessions)

namespace SpawnGrids

def insert (grids : SpawnGrids) (sessionId : String) (grid : TerminalGrid) : SpawnGrids :=
  let sessions := Function.update grids.sessions sessionId (some grid)
  if (grids.sessions sessionId).isSome then { grids with sessions }
  else
    let (order, sessions) := evict (grids.order ++ [sessionId]) sessions
    { grids with order, sessions }

def record (grids : SpawnGrids) (sessionId : String) (grid : TerminalGrid) : SpawnGrids :=
  { grids with latest := some grid }.insert sessionId grid

def resolve (grids : SpawnGrids) (sessionId : String) : TerminalGrid :=
  ((grids.sessions sessionId).or grids.latest).getD .fallback

def snapshot (grids : SpawnGrids) : TerminalGridMemory :=
  ⟨grids.latest, grids.order.filterMap fun sessionId =>
    (grids.sessions sessionId).map (sessionId, ·)⟩

def seed (grids : SpawnGrids) (memory : TerminalGridMemory) : SpawnGrids :=
  let cleared := { grids with sessions := fun _ => none, order := [] }
  { memory.sessions.foldl (fun grids entry => grids.insert entry.1 entry.2) cleared with
    latest := memory.latest }

end SpawnGrids

inductive Operation where
  | record (sessionId : String) (grid : TerminalGrid)
  | seed (memory : TerminalGridMemory)

def perform (grids : SpawnGrids) : Operation → SpawnGrids
  | .record sessionId grid => grids.record sessionId grid
  | .seed memory => grids.seed memory

/-- The order holds the Sessions of the map, each once. -/
def Lists (order : List String) (sessions : String → Option TerminalGrid) : Prop :=
  order.Nodup ∧ ∀ id, id ∈ order ↔ (sessions id).isSome

def Remembers (grids : SpawnGrids) : Prop :=
  Lists grids.order grids.sessions ∧ grids.order.length ≤ maxRememberedGrids

variable {grids : SpawnGrids} {order : List String} {sessions : String → Option TerminalGrid}
  {id : String}

theorem evict_lists (lists : Lists order sessions) :
    Lists (evict order sessions).1 (evict order sessions).2
      ∧ (evict order sessions).1.length ≤ maxRememberedGrids := by
  induction order generalizing sessions with
  | nil => exact ⟨lists,Nat.zero_le _⟩
  | cons evicted order ih =>
    rw [evict]
    split
    · obtain ⟨nodup,keys⟩ := lists
      obtain ⟨gone,rest⟩ := nodup_cons.mp nodup
      refine ih ⟨rest,fun id => ?_⟩
      by_cases same : id = evicted
      · simp [same, gone]
      · rw [Function.update_of_ne same, ← keys, mem_cons, or_iff_right same]
    next fits => exact ⟨lists,Nat.not_lt.mp fits⟩

theorem lists_update (lists : Lists order sessions) (absent : (sessions id).isSome = false)
    : Lists (order ++ [id]) (Function.update sessions id (some grid)) := by
  obtain ⟨nodup,keys⟩ := lists
  have new : id ∉ order := fun mem => by simp [(keys id).mp mem] at absent
  refine ⟨nodup_append.mpr ⟨nodup,nodup_singleton _,?_⟩,fun other => ?_⟩
  · simp only [mem_singleton, forall_eq]
    exact fun other mem same => new (same ▸ mem)
  · by_cases same : other = id
    · simp [same]
    · rw [Function.update_of_ne same, ← keys, mem_append, mem_singleton, or_iff_left same]

theorem insert_remembers (remembers : Remembers grids) : Remembers (grids.insert sid grid) := by
  obtain ⟨⟨nodup,keys⟩,few⟩ := remembers
  unfold SpawnGrids.insert
  dsimp only
  split
  next known =>
    refine ⟨⟨nodup,fun id => ?_⟩,few⟩
    by_cases same : id = sid
    · simp [same, keys, known]
    · simp [Function.update_of_ne same, keys]
  next absent => exact evict_lists (lists_update ⟨nodup,keys⟩ (eq_false_of_ne_true absent))

theorem perform_remembers (remembers : Remembers grids) : Remembers (perform grids operation) := by
  cases operation with
  | record sid grid => exact insert_remembers remembers
  | seed memory =>
    obtain ⟨latest,entries⟩ := memory
    suffices all : ∀ grids, Remembers grids →
        Remembers (entries.foldl (fun grids entry => grids.insert entry.1 entry.2) grids) from
      all _ ⟨⟨nodup_nil,by simp⟩,Nat.zero_le _⟩
    induction entries with
    | nil => exact fun _ => id
    | cons entry rest ih => exact fun _ now => ih _ (insert_remembers now)

theorem evict_fits (few : order.length ≤ maxRememberedGrids) :
    evict order sessions = (order, sessions) := by
  cases order with
  | nil => rfl
  | cons evicted order => exact if_neg (Nat.not_lt.mpr few)

/-- Replayed in their order, the grids find room and come back. -/
theorem seed_restores {seeded : SpawnGrids} (remembers : Remembers grids)
    (split : grids.order = done ++ rest) (placed : seeded.order = done)
    (same : ∀ id, seeded.sessions id = if id ∈ done then grids.sessions id else none) :
    let last := (rest.filterMap fun id => (grids.sessions id).map (id, ·)).foldl
      (fun grids entry => grids.insert entry.1 entry.2) seeded
    last.order = grids.order ∧ ∀ id, last.sessions id = grids.sessions id := by
  obtain ⟨⟨nodup,keys⟩,few⟩ := remembers
  induction rest generalizing done seeded with
  | nil =>
    rw [append_nil] at split
    refine ⟨placed.trans split.symm,fun id => (same id).trans ?_⟩
    split
    · rfl
    next absent =>
      rw [← split, keys, Option.not_isSome_iff_eq_none] at absent
      exact absent.symm
  | cons id rest ih =>
    have mem : id ∈ grids.order := split ▸ mem_append_right _ mem_cons_self
    obtain ⟨grid,hit⟩ := Option.isSome_iff_exists.mp ((keys id).mp mem)
    have new : id ∉ done := by
      rw [split] at nodup
      exact fun old => disjoint_of_nodup_append nodup old mem_cons_self
    have room : (done ++ [id]).length ≤ maxRememberedGrids := by
      simp only [split, length_append, length_cons, length_nil] at few ⊢
      omega
    rw [filterMap_cons_some (by rw [hit]; rfl), foldl_cons]
    refine ih (by rw [split, append_cons]) ?_ fun other => ?_
    · simp [SpawnGrids.insert, same, new, placed, evict_fits room]
    · simp only [SpawnGrids.insert, same id, if_neg new, Option.isSome_none, Bool.false_eq_true,
        ↓reduceIte, placed, evict_fits room]
      by_cases own : other = id
      · simp [own, hit]
      · simp [same, own]

/-- The remembered grids after any calls, and after a restart. -/
theorem remembered_grids_survive_restart (operations : List Operation) :
    let grids := operations.foldl perform {}
    let seeded := SpawnGrids.seed {} grids.snapshot
    grids.order.Nodup ∧ (∀ id, id ∈ grids.order ↔ (grids.sessions id).isSome)
      ∧ grids.order.length ≤ maxRememberedGrids
      ∧ seeded.order = grids.order ∧ seeded.latest = grids.latest
      ∧ ∀ id, seeded.resolve id = grids.resolve id := by
  have start : Remembers {} := ⟨⟨nodup_nil,by simp⟩,Nat.zero_le _⟩
  have remembers : Remembers (operations.foldl perform {}) :=
    foldlRecOn operations perform start fun grids now operation _ =>
      perform_remembers now
  obtain ⟨order,sessions⟩ := @seed_restores _ [] _ {} remembers rfl rfl fun _ => rfl
  refine ⟨remembers.1.1,remembers.1.2,remembers.2,order,rfl,fun id => ?_⟩
  exact congrArg (fun grid => (Option.or grid _).getD _) (sessions id)

end TermloopGrids
