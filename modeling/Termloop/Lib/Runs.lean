import Mathlib.Logic.Relation

/-!
Finite runs of a labelled step relation. A run keeps the actions it took, so a
statement may speak about what happened on the way and not only about the two
ends. Nothing here depends on what a state or an action is.
-/
namespace TermloopRuns
variable {State Action : Type}

inductive Run (step : State → Action → State → Prop) : State → List Action → State → Prop where
  | nil (s : State) : Run step s [] s
  | cons {s t u : State} {a : Action} {rest : List Action}
      (first : step s a t) (tail : Run step t rest u) : Run step s (a :: rest) u

variable {step : State → Action → State → Prop} {s t u : State} {a : Action}
  {as bs : List Action}

theorem run_append (left : Run step s as t) (right : Run step t bs u) :
    Run step s (as ++ bs) u := by
  induction left with
  | nil => exact right
  | cons first tail ih => exact Run.cons first (ih right)

theorem run_single (h : step s a t) : Run step s [a] t :=
  Run.cons h (Run.nil t)

theorem run_snoc (left : Run step s as t) (last : step t a u) : Run step s (as ++ [a]) u :=
  run_append left (run_single last)

theorem exists_reached {p q r : State → Prop} (reached : ∃ s, p s ∧ q s)
    (shown : ∀ s, p s → q s → r s) : ∃ s, p s ∧ q s ∧ r s := by
  obtain ⟨s,run,here⟩ := reached
  exact ⟨s,run,here,shown s run here⟩

theorem run_split (run : Run step s (as ++ bs) u) : ∃ t, Run step s as t ∧ Run step t bs u := by
  induction as generalizing s with
  | nil => exact ⟨s,Run.nil s,run⟩
  | cons a rest ih =>
    cases run with
    | cons first tail =>
      obtain ⟨t,left,right⟩ := ih tail
      exact ⟨t,Run.cons first left,right⟩

theorem run_invariant (Inv : State → Prop) (keep : ∀ {s a t}, Inv s → step s a t → Inv t)
    (run : Run step s as t) (start : Inv s) : Inv t := by
  induction run with
  | nil => exact start
  | cons first tail ih => exact ih (keep start first)

theorem run_actions {Inv : State → Prop} {Shown : Action → Prop}
    (keep : ∀ s a t, Inv s → step s a t → Inv t ∧ Shown a)
    (run : Run step s as t) (start : Inv s) : ∀ a ∈ as, Shown a := by
  induction run with
  | nil => exact nofun
  | cons first tail ih =>
    obtain ⟨next,shown⟩ := keep _ _ _ start first
    intro a member
    rcases List.mem_cons.mp member with same | later
    · exact same ▸ shown
    · exact ih next a later

/-- The same rule for an invariant that also looks at the actions taken so far. -/
theorem run_history_invariant (Inv : List Action → State → Prop)
    (keep : ∀ {past s a t}, Inv past s → step s a t → Inv (past ++ [a]) t)
    (run : Run step s as t) : ∀ past, Inv past s → Inv (past ++ as) t := by
  induction run with
  | nil => intro past start; simpa using start
  | cons first tail ih =>
    intro past start
    have next := ih _ (keep start first)
    simpa using next

def Takes (next : State → Action → Option State) (s : State) (a : Action) (t : State) : Prop :=
  next s a = some t

def execute (next : State → Action → Option State) : State → List Action → Option State
  | s, [] => some s
  | s, a :: rest => (next s a).bind fun t => execute next t rest

theorem run_of_execute {next : State → Action → Option State}
    (done : execute next s as = some t) : Run (Takes next) s as t := by
  induction as generalizing s with
  | nil =>
    cases done
    exact Run.nil _
  | cons a rest ih =>
    obtain ⟨u,first,tail⟩ := Option.bind_eq_some_iff.mp done
    exact Run.cons first (ih tail)

/-- The steps whose start state and action meet a side condition. -/
def Guarded (ok : State → Action → Prop) (step : State → Action → State → Prop) :
    State → Action → State → Prop :=
  fun s a t => ok s a ∧ step s a t

theorem guarded_run_invariant {ok : State → Action → Prop} (Inv : State → Prop)
    (keep : ∀ {s a t}, Inv s → ok s a → step s a t → Inv t)
    (run : Run (Guarded ok step) s as t) (start : Inv s) : Inv t :=
  run_invariant Inv (fun inv h => keep inv h.1 h.2) run start

end TermloopRuns
