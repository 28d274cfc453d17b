import Mathlib.Data.List.Basic
import Termloop.Lib.Runs

/-!
Spawns, terminations and reaping of one session id. A launch is named by the
position of its reservation, so pointer equality of the shared reservation or
runtime is equality of positions. Each action is what one thread does while it
holds the registry lock, or the part of it that no other thread can see.
-/
namespace TermloopLaunch
open TermloopRuns List
variable {i j : Nat} {l : Launch} {s : Service}

/-- `existsAtInsert` is the refusal after the reservation was granted. -/
inductive SpawnResult where
  | ok | launchCancelled | existsAtInsert | failed

inductive SpawnPlace where
  | firstCheck | openPty | secondCheck | registerOwnership | thirdCheck | connectStreams | insert
  | dropReservation (result : SpawnResult)
  | returned (result : SpawnResult)

structure Launch where
  runtimeEpoch : Nat
  cancelled : Bool
  place : SpawnPlace

inductive TerminatePlace where
  | holding (launch : Nat)
  | returnedOk | returnedErr

structure Terminate where
  runtimeEpoch : Option Nat
  place : TerminatePlace

/-- `registry` and `launching` at the session id; `sweeps` are the runtimes of unfinished
    `reap_exited` calls. -/
structure Service where
  launches : List Launch
  (registry launching : Option Nat)
  terminates : List Terminate
  sweeps : List Nat

def Service.empty : Service := ⟨[], none, none, [], []⟩

inductive Action where
  | reserveLaunch (runtimeEpoch : Nat)
  | advance (launch : Nat) (succeeds : Bool)
  | terminateSelected (runtimeEpoch : Option Nat)
  | finishTerminate (call : Nat) (childTerminated : Bool)
  | reapCollect
  | reapRemove (sweep : Nat) (retain : Bool)

def epochMatches (wanted : Option Nat) (runtimeEpoch : Nat) : Bool :=
  wanted.all fun epoch => decide (runtimeEpoch = epoch)

/-- Next place of a spawn whose current section does not touch the registry. -/
def Launch.after (l : Launch) (succeeds : Bool) : SpawnPlace :=
  let check next := if l.cancelled then .dropReservation .launchCancelled else next
  let call next := if succeeds then next else .dropReservation .failed
  match l.place with
  | .firstCheck => check .openPty
  | .openPty => call .secondCheck
  | .secondCheck => check .registerOwnership
  | .registerOwnership => call .thirdCheck
  | .thirdCheck => check .connectStreams
  | .connectStreams => call .insert
  | place => place

def Service.setLaunch (s : Service) (i : Nat) (l : Launch) : Service :=
  { s with launches := s.launches.set i l }

def Service.insertRuntime (s : Service) (i : Nat) (l : Launch) : Service :=
  if l.cancelled then s.setLaunch i { l with place := .dropReservation .launchCancelled }
  else if s.registry.isSome then
    s.setLaunch i { l with place := .dropReservation .existsAtInsert }
  else { s.setLaunch i { l with place := .dropReservation .ok } with registry := some i }

def Service.dropReservation (s : Service) (i : Nat) (l : Launch) (result : SpawnResult) : Service :=
  { s.setLaunch i { l with place := .returned result } with
    launching := if s.launching = some i then none else s.launching }

def Service.removeRuntime (s : Service) (i : Nat) : Service :=
  { s with registry := if s.registry = some i then none else s.registry }

def Service.cancelLaunch (s : Service) (i : Nat) : Service :=
  match s.launches[i]? with
  | some l => s.setLaunch i { l with cancelled := true }
  | none => s

def Service.addTerminate (s : Service) (runtimeEpoch : Option Nat) (place : TerminatePlace) :
    Service :=
  { s with terminates := s.terminates ++ [⟨runtimeEpoch, place⟩] }

def Service.launchEpoch (s : Service) (i : Nat) : Nat :=
  (s.launches[i]?.map (·.runtimeEpoch)).getD 0

/-- Both locks are held from the lookup to the store of the cancel flag. -/
def Service.terminateSelected (s : Service) (runtimeEpoch : Option Nat) : Service :=
  match s.registry with
  | some i => s.addTerminate runtimeEpoch (.holding i)
  | none =>
    match s.launching with
    | some i =>
      if epochMatches runtimeEpoch (s.launchEpoch i) then
        (s.cancelLaunch i).addTerminate runtimeEpoch .returnedOk
      else s.addTerminate runtimeEpoch .returnedErr
    | none => s.addTerminate runtimeEpoch .returnedErr

def step (s : Service) : Action → Option Service
  | .reserveLaunch runtimeEpoch =>
    if s.registry.isSome || s.launching.isSome then some s
    else some { s with
      launches := s.launches ++ [⟨runtimeEpoch, false, .firstCheck⟩]
      launching := some s.launches.length }
  | .advance i succeeds =>
    match s.launches[i]? with
    | none => none
    | some l =>
      match l.place with
      | .insert => some (s.insertRuntime i l)
      | .dropReservation result => some (s.dropReservation i l result)
      | .returned _ => none
      | _ => some (s.setLaunch i { l with place := l.after succeeds })
  | .terminateSelected runtimeEpoch => some (s.terminateSelected runtimeEpoch)
  | .finishTerminate k childTerminated =>
    match s.terminates[k]? with
    | some ⟨runtimeEpoch, .holding i⟩ =>
      if epochMatches runtimeEpoch (s.launchEpoch i) && childTerminated then
        some { s.removeRuntime i with
          terminates := s.terminates.set k ⟨runtimeEpoch, .returnedOk⟩ }
      else some { s with terminates := s.terminates.set k ⟨runtimeEpoch, .returnedErr⟩ }
    | _ => none
  | .reapCollect => some { s with sweeps := s.sweeps ++ s.registry.toList }
  | .reapRemove sweep retain =>
    match s.sweeps[sweep]? with
    | some i => some { (if retain then s else s.removeRuntime i) with
        sweeps := s.sweeps.eraseIdx sweep }
    | none => none

/-- A reservation whose runtime has not been offered to the registry yet. -/
def SpawnPlace.pending : SpawnPlace → Bool
  | .dropReservation _ => false
  | .returned _ => false
  | _ => true

def SpawnPlace.refusedAtInsert : SpawnPlace → Bool
  | .dropReservation .existsAtInsert => true
  | .returned .existsAtInsert => true
  | _ => false

structure Consistent (s : Service) : Prop where
  pendingAlone : ∀ (i : Nat) (l : Launch), s.launches[i]? = some l → l.place.pending = true →
    s.launching = some i ∧ s.registry = none
  registered : ∀ i, s.registry = some i → ∃ l : Launch, s.launches[i]? = some l ∧ l.place.pending = false
  reserved : ∀ i, s.launching = some i → ∃ l, s.launches[i]? = some l
  agree : ∀ i j, s.launching = some i → s.registry = some j → i = j
  neverRefused : ∀ (i : Nat) (l : Launch), s.launches[i]? = some l → l.place.refusedAtInsert = false

theorem getElem?_replaced {launches : List Launch} (here : launches[i]? = some l) (next : Launch)
    (j : Nat) :
    (launches.set i next)[j]? = if j = i then some next else launches[j]? := by
  have inside : i < launches.length := (List.getElem?_eq_some_iff.mp here).1
  rw [getElem?_set]
  by_cases same : j = i
  · subst same
    simp [inside]
  · simp [same, Ne.symm same]

theorem setLaunch_consistent (inv : Consistent s) {next : Launch}
    (present : s.launches[i]? = some l) (forward : next.place.pending → l.place.pending)
    (stays : l.place.pending = false → next.place.pending = false)
    (unrefused : next.place.refusedAtInsert = false) : Consistent (s.setLaunch i next) where
  pendingAlone := by
    intro j m hit pending
    simp only [Service.setLaunch, getElem?_replaced present] at hit ⊢
    split at hit
    · rename_i same
      cases hit
      exact same ▸ inv.pendingAlone i l present (forward pending)
    · exact inv.pendingAlone j m hit pending
  registered := by
    intro j here
    obtain ⟨m,hit,past⟩ := inv.registered j here
    simp only [Service.setLaunch, getElem?_replaced present]
    split
    · rename_i same
      rw [same, present] at hit
      cases hit
      exact ⟨next,rfl,stays past⟩
    · exact ⟨m,hit,past⟩
  reserved := by
    intro j here
    obtain ⟨m,hit⟩ := inv.reserved j here
    simp only [Service.setLaunch, getElem?_replaced present]
    split
    · exact ⟨next,rfl⟩
    · exact ⟨m,hit⟩
  agree := inv.agree
  neverRefused := by
    intro j m hit
    simp only [Service.setLaunch, getElem?_replaced present] at hit
    split at hit
    · cases hit
      exact unrefused
    · exact inv.neverRefused j m hit

theorem after_unrefused (l : Launch) (succeeds : Bool) (pending : l.place.pending) :
    (l.after succeeds).refusedAtInsert = false := by
  revert pending
  unfold Launch.after
  cases l.place <;> cases l.cancelled <;> cases succeeds <;>
    simp [SpawnPlace.pending, SpawnPlace.refusedAtInsert]

section
variable (inv : Consistent s)
include inv

theorem insertRuntime_consistent (present : s.launches[i]? = some l)
    (place : l.place = .insert) : Consistent { s.setLaunch i { l with
      place := .dropReservation .ok } with registry := some i } := by
  have pending : l.place.pending := by simp [place, SpawnPlace.pending]
  have reserved := (inv.pendingAlone i l present pending).1
  have settled : Consistent (s.setLaunch i { l with place := .dropReservation .ok }) :=
    setLaunch_consistent inv present (fun _ => pending) (by simp [pending]) rfl
  constructor
  · intro j m hit active
    have alone := settled.pendingAlone j m hit active
    have same : j = i := by
      have held : s.launching = some j := alone.1
      rw [reserved] at held
      exact (Option.some.inj held).symm
    simp only [Service.setLaunch, getElem?_replaced present, same, ↓reduceIte] at hit
    cases hit
    cases active
  · intro j here
    cases here
    exact ⟨{ l with place := .dropReservation .ok },
      by simp [Service.setLaunch, getElem?_replaced present],rfl⟩
  · exact settled.reserved
  · intro j k held here
    cases here
    rw [show s.launching = some j from held] at reserved
    exact Option.some.inj reserved
  · exact settled.neverRefused

theorem dropReservation_consistent {result : SpawnResult}
    (present : s.launches[i]? = some l) (place : l.place = .dropReservation result) :
    Consistent (s.dropReservation i l result) := by
  have unrefused := inv.neverRefused i l present
  have settled : Consistent (s.setLaunch i { l with place := .returned result }) := by
    refine setLaunch_consistent inv present (by simp [SpawnPlace.pending]) (fun _ => rfl) ?_
    rw [place] at unrefused
    cases result <;> first | rfl | cases unrefused
  unfold Service.dropReservation
  constructor
  · intro j m hit pending
    obtain ⟨held,free⟩ := settled.pendingAlone j m hit pending
    have held : s.launching = some j := held
    have other : j ≠ i := by
      rintro rfl
      simp only [Service.setLaunch, getElem?_replaced present, ↓reduceIte] at hit
      cases hit
      cases pending
    exact ⟨by simp [held, other],free⟩
  · exact settled.registered
  · intro j held
    simp only at held
    split at held
    · cases held
    · exact settled.reserved j held
  · intro j k held here
    simp only at held
    split at held
    · cases held
    · exact settled.agree j k held here
  · exact settled.neverRefused

theorem cancelLaunch_consistent : Consistent (s.cancelLaunch i) := by
  unfold Service.cancelLaunch
  split
  · rename_i l here
    exact setLaunch_consistent inv here (fun h => h) (fun h => h) (inv.neverRefused i l here)
  · exact inv

theorem removeRuntime_consistent : Consistent (s.removeRuntime i) := by
  unfold Service.removeRuntime
  constructor
  · intro j m hit pending
    obtain ⟨held,free⟩ := inv.pendingAlone j m hit pending
    exact ⟨held,by simp [free]⟩
  · intro j here
    simp only at here
    split at here
    · cases here
    · exact inv.registered j here
  · exact inv.reserved
  · intro j k held here
    simp only at here
    split at here
    · cases here
    · exact inv.agree j k held here
  · exact inv.neverRefused

theorem consistent_calls : Consistent { s with terminates := terminates, sweeps := sweeps } :=
  ⟨inv.pendingAlone,inv.registered,inv.reserved,inv.agree,inv.neverRefused⟩

theorem reserve_consistent (unregistered : s.registry = none) (unreserved : s.launching = none) :
    Consistent { s with
      launches := s.launches ++ [⟨epoch, false, .firstCheck⟩]
      launching := some s.launches.length } := by
  have old : ∀ (j : Nat) (m : Launch),
      (s.launches ++ [(⟨epoch,false,.firstCheck⟩ : Launch)])[j]? = some m →
      s.launches[j]? = some m ∨ j = s.launches.length ∧ m = ⟨epoch,false,.firstCheck⟩ := by
    intro j m hit
    by_cases inside : j < s.launches.length
    · rw [getElem?_append_left inside] at hit
      exact .inl hit
    · rw [getElem?_append_right (Nat.le_of_not_lt inside), getElem?_singleton] at hit
      split at hit
      · cases hit
        exact .inr ⟨by omega,rfl⟩
      · cases hit
  constructor
  · intro j m hit pending
    rcases old j m hit with pre | ⟨rfl,_⟩
    · have held := (inv.pendingAlone j m pre pending).1
      rw [unreserved] at held
      cases held
    · exact ⟨rfl,unregistered⟩
  · intro j here
    simp only [unregistered] at here
    cases here
  · intro j held
    cases held
    exact ⟨⟨epoch,false,.firstCheck⟩,by simp⟩
  · intro j k _ here
    simp only [unregistered] at here
    cases here
  · intro j m hit
    rcases old j m hit with pre | ⟨_,rfl⟩
    · exact inv.neverRefused j m pre
    · rfl

end

/-- What a step does to the launches, the registry and the calls of `terminate_selected`. -/
inductive Effect (s : Service) : Service → Prop where
  | reserve (runtimeEpoch : Nat) (unregistered : s.registry = none)
      (unreserved : s.launching = none) : Effect s { s with
        launches := s.launches ++ [⟨runtimeEpoch, false, .firstCheck⟩]
        launching := some s.launches.length }
  | advance (i : Nat) (l : Launch) (place : SpawnPlace) (present : s.launches[i]? = some l)
      (pending : l.place.pending = true) (unrefused : place.refusedAtInsert = true →
        l.place = .insert ∧ s.registry.isSome = true) :
      Effect s (s.setLaunch i { l with place := place })
  | insert (i : Nat) (l : Launch) (present : s.launches[i]? = some l) (place : l.place = .insert)
      (live : l.cancelled = false) : Effect s { s.setLaunch i { l with
        place := .dropReservation .ok } with registry := some i }
  | drop (i : Nat) (l : Launch) (result : SpawnResult) (present : s.launches[i]? = some l)
      (place : l.place = .dropReservation result) : Effect s (s.dropReservation i l result)
  | call (terminates : List Terminate) (sweeps : List Nat)
      (longer : s.terminates <+: terminates) :
      Effect s { s with terminates := terminates, sweeps := sweeps }
  | cancel (i : Nat) (runtimeEpoch : Option Nat) :
      Effect s ((s.cancelLaunch i).addTerminate runtimeEpoch .returnedOk)
  | finish (k i : Nat) (runtimeEpoch : Option Nat)
      (held : s.terminates[k]? = some ⟨runtimeEpoch, .holding i⟩) :
      Effect s { s.removeRuntime i with
        terminates := s.terminates.set k ⟨runtimeEpoch, .returnedOk⟩ }
  | fail (k i : Nat) (runtimeEpoch : Option Nat)
      (held : s.terminates[k]? = some ⟨runtimeEpoch, .holding i⟩) :
      Effect s { s with terminates := s.terminates.set k ⟨runtimeEpoch, .returnedErr⟩ }
  | reap (i : Nat) (sweeps : List Nat) : Effect s { s.removeRuntime i with sweeps := sweeps }

theorem step_effect (taken : Takes step s a t) : Effect s t := by
  unfold Takes at taken
  cases a with
  | reserveLaunch epoch =>
    simp only [step] at taken
    split at taken
    · cases taken
      exact .call s.terminates s.sweeps prefix_rfl
    · next free =>
      cases taken
      simp only [Bool.or_eq_true, not_or, Bool.not_eq_true, Option.isSome_eq_false_iff,
        Option.isNone_iff_eq_none] at free
      exact .reserve epoch free.1 free.2
  | advance i succeeds =>
    simp only [step] at taken
    split at taken
    · cases taken
    next l here =>
    split at taken
    · next place =>
      cases taken
      have pending : l.place.pending := by simp [place, SpawnPlace.pending]
      unfold Service.insertRuntime
      split
      · exact .advance i l _ here pending nofun
      next live =>
      split
      · next taken => exact .advance i l _ here pending fun _ => ⟨place,taken⟩
      · exact .insert i l here place (by simpa using live)
    · next result place =>
      cases taken
      exact .drop i l result here place
    · cases taken
    · cases taken
      have pending : l.place.pending := by
        cases place : l.place <;> first | rfl | exact absurd place (by simp_all)
      refine .advance i l _ here pending ?_
      simp [after_unrefused l succeeds pending]
  | terminateSelected epoch =>
    cases taken
    unfold Service.terminateSelected
    split
    · exact .call _ _ (prefix_append _ _)
    split
    · split
      · exact .cancel _ _
      · exact .call _ _ (prefix_append _ _)
    · exact .call _ _ (prefix_append _ _)
  | finishTerminate k childTerminated =>
    simp only [step] at taken
    split at taken
    · next held =>
      split at taken
      · cases taken
        exact .finish k _ _ held
      · cases taken
        exact .fail k _ _ held
    · cases taken
  | reapCollect =>
    cases taken
    exact .call _ _ prefix_rfl
  | reapRemove sweep retain =>
    simp only [step] at taken
    split at taken
    · cases taken
      split
      · exact .call _ _ prefix_rfl
      · exact .reap _ _
    · cases taken

theorem step_consistent (s : Service) (a : Action) (t : Service) (inv : Consistent s)
    (taken : Takes step s a t) : Consistent t := by
  cases step_effect taken with
  | reserve epoch unregistered unreserved =>
    exact reserve_consistent inv unregistered unreserved
  | advance i l place here pending unrefused =>
    have free := (inv.pendingAlone i l here pending).2
    refine setLaunch_consistent inv here (fun _ => pending) (by simp [pending]) ?_
    by_contra refused
    simpa [free] using (unrefused (by simpa using refused)).2
  | insert i l here place live => exact insertRuntime_consistent inv here place
  | drop i l result here place => exact dropReservation_consistent inv here place
  | call terminates sweeps longer => exact consistent_calls inv
  | cancel i epoch => exact consistent_calls (cancelLaunch_consistent inv)
  | finish k i epoch held => exact consistent_calls (removeRuntime_consistent inv)
  | fail k i epoch held => exact consistent_calls inv
  | reap i sweeps => exact consistent_calls (removeRuntime_consistent inv)

/-- A cancelled launch stays cancelled, one past the insertion stays past it. -/
structure Follows (l next : Launch) : Prop where
  cancelled : l.cancelled = true → next.cancelled = true
  past : l.place.pending = false → next.place.pending = false

theorem follows_refl : Follows l l := ⟨fun h => h,fun h => h⟩

theorem setLaunch_follows {m next : Launch} (here : s.launches[i]? = some l)
    (hit : s.launches[j]? = some m) (follows : Follows l next) :
    ∃ m', (s.setLaunch i next).launches[j]? = some m' ∧ Follows m m' := by
  simp only [Service.setLaunch, getElem?_replaced here]
  split
  · rename_i same
    rw [same, here] at hit
    cases hit
    exact ⟨next,rfl,follows⟩
  · exact ⟨m,hit,follows_refl⟩

theorem step_follows (taken : Takes step s a t)
    (hit : s.launches[j]? = some m) : ∃ m', t.launches[j]? = some m' ∧ Follows m m' := by
  have same : ∃ m', s.launches[j]? = some m' ∧ Follows m m' := ⟨m,hit,follows_refl⟩
  cases step_effect taken with
  | reserve epoch unregistered unreserved =>
    have inside : j < s.launches.length := (List.getElem?_eq_some_iff.mp hit).1
    exact ⟨m,by rw [getElem?_append_left inside, hit],follows_refl⟩
  | advance i l place here pending unrefused =>
    exact setLaunch_follows here hit ⟨fun h => h,by simp [pending]⟩
  | insert i l here place live =>
    exact setLaunch_follows here hit ⟨fun h => h,fun _ => rfl⟩
  | drop i l result here place =>
    exact setLaunch_follows here hit ⟨fun h => h,fun _ => rfl⟩
  | cancel i epoch =>
    simp only [Service.addTerminate, Service.cancelLaunch]
    split
    · next l here => exact setLaunch_follows here hit ⟨fun _ => rfl,fun h => h⟩
    · exact same
  | call | finish | fail | reap => exact same

theorem removeRuntime_registry (here : (s.removeRuntime i).registry = some j) :
    s.registry = some j ∧ j ≠ i := by
  simp only [Service.removeRuntime] at here
  split at here
  · cases here
  rename_i other
  exact ⟨here,by rintro rfl; exact other here⟩

theorem step_registers (taken : Takes step s a t) (here : t.registry = some j) :
    s.registry = some j ∨ ∃ l, s.launches[j]? = some l ∧ l.place = .insert ∧ l.cancelled = false :=
      by
  cases step_effect taken with
  | insert i l present place live =>
    cases here
    exact .inr ⟨l,present,place,live⟩
  | cancel i epoch =>
    simp only [Service.addTerminate, Service.cancelLaunch] at here
    split at here
    · exact .inl here
    · exact .inl here
  | finish | reap => exact .inl (removeRuntime_registry here).1
  | reserve | advance | drop | call | fail => exact .inl here

end TermloopLaunch
