import Mathlib.Data.List.Infix

/-!
Overlaps of a pattern with a text: a beginning of the pattern that the text ends with.
The longest overlap after one more element grows from an overlap that the element
continues, and the overlaps below a given one are those of the pattern with itself.
-/
namespace TermloopOverlaps
open List
variable {α : Type} {p xs : List α} {c : α} {j k n : Nat}

def Overlap (p xs : List α) (k : Nat) : Prop := k ≤ p.length ∧ p.take k <:+ xs

structure Longest (p xs : List α) (k : Nat) : Prop where
  overlap : Overlap p xs k
  most : ∀ j, Overlap p xs j → j ≤ k

theorem overlap_zero : Overlap p xs 0 := by simp [Overlap]

theorem overlap_length (overlap : Overlap p xs k) : k ≤ xs.length := by
  have short := overlap.2.length_le
  have within := overlap.1
  simp only [length_take] at short
  omega

theorem overlap_snoc : Overlap p (xs ++ [c]) (k + 1) ↔ Overlap p xs k ∧ p[k]? = some c := by
  by_cases within : k < p.length
  · simp only [Overlap, take_add_one, getElem?_eq_getElem within, Option.toList_some,
      ← reverse_prefix, reverse_append, reverse_singleton, singleton_append,
      cons_prefix_cons, Option.some.injEq]
    constructor
    · rintro ⟨-,same,ends⟩
      exact ⟨⟨by omega,ends⟩,same⟩
    · rintro ⟨⟨-,ends⟩,same⟩
      exact ⟨by omega,same,ends⟩
  · simp only [Overlap, List.getElem?_eq_none (Nat.not_lt.mp within)]
    simp
    omega

/-- Below one overlap, the others are those of the pattern with its own beginning. -/
theorem overlap_below (one : Overlap p xs n) (less : j < n) :
    Overlap p xs j ↔ Overlap p (p.take n).tail j := by
  obtain ⟨within,ends⟩ := one
  have proper : p.take j <:+ p.take n ↔ p.take j <:+ (p.take n).tail := by
    cases shape : p.take n with
    | nil =>
      have size := congrArg List.length shape
      simp only [length_take, length_nil] at size
      omega
    | cons a rest =>
      have size := congrArg List.length shape
      simp only [length_take, length_cons] at size
      rw [suffix_cons_iff, tail_cons]
      refine or_iff_right fun same => ?_
      have both := congrArg List.length same
      simp only [length_take, length_cons] at both
      omega
  constructor
  · rintro ⟨short,suffix⟩
    refine ⟨short,proper.mp (suffix_of_suffix_length_le suffix ends ?_)⟩
    simp only [length_take]
    omega
  · rintro ⟨short,suffix⟩
    exact ⟨short,(proper.mpr suffix).trans ends⟩

theorem longest_snoc {r : Nat} (overlap : Overlap p xs r) (fits : p[r]? = some c)
    (most : ∀ j, Overlap p xs j → p[j]? = some c → j ≤ r) : Longest p (xs ++ [c]) (r + 1) := by
  refine ⟨overlap_snoc.mpr ⟨overlap,fits⟩,fun j other => ?_⟩
  cases j with
  | zero => omega
  | succ j =>
    obtain ⟨before,same⟩ := overlap_snoc.mp other
    have := most j before same
    omega

theorem longest_none (none : ∀ j, Overlap p xs j → p[j]? ≠ some c) : Longest p (xs ++ [c]) 0 := by
  refine ⟨overlap_zero,fun j other => ?_⟩
  cases j with
  | zero => omega
  | succ j =>
    obtain ⟨before,same⟩ := overlap_snoc.mp other
    exact absurd same (none j before)

end TermloopOverlaps
