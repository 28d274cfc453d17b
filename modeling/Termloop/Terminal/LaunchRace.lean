import Termloop.Terminal.Launch

/-!
The race between launches and terminations of one session id: at most one launch
is on its way into the registry, and a successful termination keeps the launch
it found out of the registry for good.
-/
namespace TermloopLaunch
open TermloopRuns List

structure Dead (i : Nat) (s : Service) : Prop where
  absent : s.registry ≠ some i
  barred : ∃ l, s.launches[i]? = some l ∧ (l.cancelled = true ∨ l.place.pending = false)

theorem step_dead (dead : Dead i s) (taken : Takes step s a t) : Dead i t := by
  obtain ⟨l,hit,barred⟩ := dead.barred
  obtain ⟨next,later,follows⟩ := step_follows taken hit
  constructor
  · intro here
    rcases step_registers taken here with pre | ⟨m,present,place,live⟩
    · exact dead.absent pre
    rw [hit] at present
    cases present
    rcases barred with cancelled | past
    · rw [live] at cancelled
      cases cancelled
    · rw [place] at past
      cases past
  · exact ⟨next,later,barred.imp follows.cancelled follows.past⟩

/-- The termination holds the launch's runtime, has failed, or the launch is dead. -/
structure Pursues (i k : Nat) (s : Service) : Prop where
  call : ∃ call, s.terminates[k]? = some call ∧
    (call.place = .holding i ∧ (∃ l, s.launches[i]? = some l ∧ l.place.pending = false) ∨
      call.place = .returnedErr ∨ Dead i s)

theorem step_call (taken : Takes step s a t) {k : Nat} (hit : s.terminates[k]? = some call) :
    t.terminates[k]? = some call ∨ ∃ i, call.place = .holding i ∧
      ∃ next, t.terminates[k]? = some next ∧
        (next.place = .returnedErr ∨ next.place = .returnedOk ∧ t.registry ≠ some i) := by
  have inside : k < s.terminates.length := (List.getElem?_eq_some_iff.mp hit).1
  cases step_effect taken with
  | call terminates sweeps longer =>
    obtain ⟨more,rfl⟩ := longer
    exact .inl ((getElem?_append_left inside).trans hit)
  | cancel i epoch =>
    have same : (s.cancelLaunch i).terminates = s.terminates := by
      unfold Service.cancelLaunch
      split <;> rfl
    rw [Service.addTerminate, same, getElem?_append_left inside]
    exact .inl hit
  | finish j i epoch held =>
    by_cases own : j = k
    · subst own
      cases held.symm.trans hit
      refine .inr ⟨i,rfl,_,getElem?_set_self inside,.inr ⟨rfl,fun here => ?_⟩⟩
      exact (removeRuntime_registry here).2 rfl
    · exact .inl ((getElem?_set_ne own).trans hit)
  | fail j i epoch held =>
    by_cases own : j = k
    · subst own
      cases held.symm.trans hit
      exact .inr ⟨i,rfl,_,getElem?_set_self inside,.inl rfl⟩
    · exact .inl ((getElem?_set_ne own).trans hit)
  | reserve | advance | insert | drop | reap => exact .inl hit

theorem step_pursues {i k : Nat} (pursues : Pursues i k s)
    (taken : Takes step s a t) : Pursues i k t := by
  obtain ⟨call,hit,fate⟩ := pursues.call
  rcases step_call taken hit with same | ⟨j,held,next,finished,ending⟩
  · refine ⟨call,same,?_⟩
    rcases fate with ⟨holding,l,present,past⟩ | failed | dead
    · obtain ⟨later,here,follows⟩ := step_follows taken present
      exact .inl ⟨holding,later,here,follows.past past⟩
    · exact .inr (.inl failed)
    · exact .inr (.inr (step_dead dead taken))
  · refine ⟨next,finished,?_⟩
    rcases ending with failed | ⟨_,absent⟩
    · exact .inr (.inl failed)
    rcases fate with ⟨holding,l,present,past⟩ | failed | dead
    · rw [held] at holding
      cases holding
      obtain ⟨later,here,follows⟩ := step_follows taken present
      exact .inr (.inr ⟨absent,later,here,.inr (follows.past past)⟩)
    · rw [held] at failed
      cases failed
    · exact .inr (.inr (step_dead dead taken))

def Found (s : Service) (wanted : Option Nat) (i : Nat) : Prop :=
  (s.registry = some i ∨ s.launching = some i) ∧ epochMatches wanted (s.launchEpoch i) = true

theorem cancelLaunch_dead {s : Service} (here : s.launches[i]? = some l)
    (free : s.registry = none) : Dead i (s.cancelLaunch i) := by
  simp only [Service.cancelLaunch, here]
  constructor
  · simp [Service.setLaunch, free]
  · exact ⟨{ l with cancelled := true },
      by simp [Service.setLaunch, getElem?_replaced here],.inl rfl⟩

theorem terminateSelected_pursues {s : Service} (inv : Consistent s) (hit : Found s wanted i) :
    Pursues i s.terminates.length (s.terminateSelected wanted) := by
  obtain ⟨present,wantedEpoch⟩ := hit
  unfold Service.terminateSelected
  cases known : s.registry with
  | some j =>
    have same : i = j := by
      rcases present with here | held
      · exact Option.some.inj (here.symm.trans known)
      · exact inv.agree i j held known
    subst same
    obtain ⟨l,exists_,past⟩ := inv.registered i known
    refine ⟨⟨wanted,.holding i⟩,?_,.inl ⟨rfl,l,exists_,past⟩⟩
    simp [Service.addTerminate]
  | none =>
    have held : s.launching = some i := by
      rcases present with here | held
      · rw [known] at here
        cases here
      · exact held
    obtain ⟨l,exists_⟩ := inv.reserved i held
    have dead := cancelLaunch_dead exists_ known
    have same : (s.cancelLaunch i).terminates = s.terminates := by
      simp [Service.cancelLaunch, exists_, Service.setLaunch]
    simp only [held, wantedEpoch, ↓reduceIte]
    refine ⟨⟨wanted,.returnedOk⟩,?_,.inr (.inr ⟨dead.absent,dead.barred⟩)⟩
    simp [Service.addTerminate, same]

/-- A launch on its way to the registry is alone and never refused there, and a termination
    that returns `Ok` keeps the launch it found out of the registry. -/
theorem launch_terminate_race {actions : List Action} {s : Service}
    (run : Run (Takes step) Service.empty actions s) :
    ((∀ (i j : Nat) (l m : Launch), s.launches[i]? = some l → l.place.pending = true →
        s.launches[j]? = some m → m.place.pending = true → i = j) ∧
      (∀ (i : Nat) (l : Launch), s.launches[i]? = some l → l.place.pending = true →
        s.registry = none) ∧
      ∀ (i : Nat) (l : Launch), s.launches[i]? = some l → l.place.refusedAtInsert = false) ∧
    ∀ (wanted : Option Nat) (t u : Service) (later : List Action) (i : Nat) (l : Launch)
      (result : SpawnResult), step s (.terminateSelected wanted) = some t →
      Found s wanted i → Run (Takes step) t later u →
      u.terminates[s.terminates.length]? = some ⟨wanted, .returnedOk⟩ →
      u.launches[i]? = some l → l.place = .returned result → u.registry ≠ some i := by
  have inv := run_invariant Consistent (step_consistent _ _ _) run
    (by constructor <;> simp [Service.empty])
  refine ⟨⟨?_,?_,inv.neverRefused⟩,?_⟩
  · intro i j l m first pending second alsoPending
    have left := (inv.pendingAlone i l first pending).1
    have right := (inv.pendingAlone j m second alsoPending).1
    exact Option.some.inj (left.symm.trans right)
  · intro i l present pending
    exact (inv.pendingAlone i l present pending).2
  · intro wanted t u later i l result taken found continued ok _ _
    simp only [step, Option.some.injEq] at taken
    subst taken
    have pursues := run_invariant (Pursues i s.terminates.length) (step_pursues) continued
      (terminateSelected_pursues inv found)
    obtain ⟨call,same,fate⟩ := pursues.call
    rw [ok] at same
    cases same
    rcases fate with ⟨holding,_⟩ | failed | dead
    · cases holding
    · cases failed
    · exact dead.absent

/-- Terminated while the child is opened, the spawn comes back cancelled and the registry
    stays empty. -/
theorem launch_terminate_race_during_open :
    ∃ s t u, execute step Service.empty [.reserveLaunch 4, .advance 0 true] = some s ∧
      step s (.terminateSelected (some 4)) = some t ∧
      execute step t [.advance 0 true, .advance 0 true, .advance 0 true] = some u ∧
      u.launches[0]?.map (·.place) = some (.returned .launchCancelled) ∧ u.registry ≠ some 0 := by
  obtain ⟨s,t,u,l,begun,terminated,finished,found,ok,launch,place⟩ : ∃ s t u l,
      execute step Service.empty [.reserveLaunch 4, .advance 0 true] = some s ∧
      step s (.terminateSelected (some 4)) = some t ∧
      execute step t [.advance 0 true, .advance 0 true, .advance 0 true] = some u ∧
      Found s (some 4) 0 ∧
      u.terminates[s.terminates.length]? = some ⟨some 4,.returnedOk⟩ ∧
      u.launches[0]? = some l ∧ l.place = .returned .launchCancelled :=
    ⟨_,_,_,_,rfl,rfl,rfl,⟨.inr rfl,rfl⟩,rfl,rfl,rfl⟩
  refine ⟨s,t,u,begun,terminated,finished,by rw [launch]; simp [place],?_⟩
  exact (launch_terminate_race (run_of_execute begun)).2 (some 4) t u _ 0 l .launchCancelled
    terminated found (run_of_execute finished) ok launch place

end TermloopLaunch
