import Mathlib.Data.List.Basic

/-!
Operations that mutate a state and may stop early. The answer of such an
operation stands beside the state it leaves behind: an early stop keeps the
mutations made so far, and only an explicit restore takes them back. Unsigned
64-bit counters are natural numbers whose arithmetic stops at the largest word.
-/
namespace TermloopOutcome
open List
variable {ε σ α : Type}

abbrev Outcome (ε σ α : Type) : Type := Except ε α × σ

theorem guard_passed {refused : Prop} [Decidable refused] {error : ε} {rest : Except ε α}
    {answer : α} (done : (if refused then .error error else rest) = .ok answer) :
    ¬ refused ∧ rest = .ok answer := by
  split at done
  case isTrue => cases done
  case isFalse passed => exact ⟨passed,done⟩

theorem bind_passed {β : Type} {first : Except ε α} {next : α → Except ε β} {answer : β}
    (done : (first >>= next) = .ok answer) : ∃ a, first = .ok a ∧ next a = .ok answer := by
  cases first with
  | error => cases done
  | ok a => exact ⟨a,rfl,done⟩

theorem map_passed {β : Type} {first : Except ε α} {view : α → β} {answer : β}
    (done : first.map view = .ok answer) : ∃ a, first = .ok a ∧ view a = answer := by
  cases first with
  | error => cases done
  | ok a => exact ⟨a,rfl,Except.ok.inj done⟩

def forEach (body : σ → α → Outcome ε σ Unit) : List α → σ → Outcome ε σ Unit
  | [], s => (.ok (), s)
  | a :: rest, s =>
    match body s a with
    | (.ok (), t) => forEach body rest t
    | (.error e, t) => (.error e, t)

theorem forEach_invariant {body : σ → α → Outcome ε σ Unit} {Inv : σ → Prop} {xs : List α}
    (keep : ∀ s, ∀ a ∈ xs, Inv s → Inv (body s a).2) :
    ∀ s, Inv s → Inv (forEach body xs s).2 := by
  induction xs with
  | nil => intro s start; exact start
  | cons a rest ih =>
    intro s start
    have next := keep s a mem_cons_self start
    have tail := ih fun s b later => keep s b (mem_cons_of_mem a later)
    rw [forEach]
    split
    · rename_i t passed
      rw [passed] at next
      exact tail t next
    · rename_i e t stopped
      rw [stopped] at next
      exact next

/-- An invariant over the handled elements that makes every pass succeed makes the loop
    succeed. -/
theorem forEach_succeeds {body : σ → α → Outcome ε σ Unit} {Inv : List α → σ → Prop} {xs : List α}
    (keep : ∀ done a rest s, xs = done ++ a :: rest → Inv done s →
      ∃ t, body s a = (.ok (), t) ∧ Inv (done ++ [a]) t) {s : σ} (start : Inv [] s) :
    ∃ t, forEach body xs s = (.ok (), t) ∧ Inv xs t := by
  -- the elements still to come are a suffix of the list the invariant speaks of
  have walk : ∀ rest done s, xs = done ++ rest → Inv done s →
      ∃ t, forEach body rest s = (.ok (), t) ∧ Inv xs t := by
    intro rest
    induction rest with
    | nil =>
      intro done s whole inv
      rw [append_nil] at whole
      exact ⟨s,rfl,whole ▸ inv⟩
    | cons a rest ih =>
      intro done s whole inv
      obtain ⟨t,passed,next⟩ := keep done a rest s whole inv
      obtain ⟨u,finished,last⟩ := ih (done ++ [a]) t (by simp [whole]) next
      refine ⟨u,?_,last⟩
      rw [forEach, passed]
      exact finished
  exact walk xs [] s rfl start

end TermloopOutcome

namespace TermloopSaturating

def u64Max : Nat := 18446744073709551615

def saturatingAdd (a b : Nat) : Nat := min (a + b) u64Max

def saturatingMul (a b : Nat) : Nat := min (a * b) u64Max

theorem saturatingAdd_of_le {a b : Nat} (fits : a + b ≤ u64Max) : saturatingAdd a b = a + b := by
  simp only [saturatingAdd]
  omega

theorem saturatingAdd_counts (n : Nat) : saturatingAdd (min n u64Max) 1 = min (n + 1) u64Max := by
  simp only [saturatingAdd]
  omega

theorem saturatingAdd_le (a b : Nat) : saturatingAdd a b ≤ u64Max := by
  simp only [saturatingAdd]
  omega

end TermloopSaturating
