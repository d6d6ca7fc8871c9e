import Mathlib.Data.List.Range
import Mathlib.Order.Lattice
import Mathlib.Tactic.Common

/-!
A ring of slots into which values of growing key are put, and a scan for the greatest key.

The scan needs no index: it takes over every value that is newer than what it has, and
ends with the newest wherever it lies.
-/

universe u v w

namespace Ring
variable {α : Type u} {κ : Type v} [LinearOrder κ] {key : α → κ} {count : Nat}
  {slots : Nat → α} {a b : α}

/-- One of the slots holds the value, and the others hold older ones. -/
def Newest (key : α → κ) (count : Nat) (slots : Nat → α) (a : α) : Prop :=
  ∃ k < count, slots k = a ∧ ∀ j < count, j ≠ k → key (slots j) < key a

theorem Newest.le (h : Newest key count slots a) {j : Nat} (lt : j < count) :
    key (slots j) ≤ key a := by
  obtain ⟨k, -, same, older⟩ := h
  by_cases hj : j = k
  · rw [hj, same]
  · exact (older j lt hj).le

/-- A value that is newer than all slots is the newest wherever it is put. -/
theorem newest_update {k : Nat} (hk : k < count) (newer : ∀ j < count, key (slots j) < key b) :
    Newest key count (Function.update slots k b) b := by
  refine ⟨k, hk, Function.update_self k b slots, ?_⟩
  intro j lt ne
  rw [Function.update_of_ne ne]
  exact newer j lt

theorem Newest.update (h : Newest key count slots a) {k : Nat} (hk : k < count)
    (newer : key a < key b) : Newest key count (Function.update slots k b) b :=
  newest_update hk (fun _ lt => (h.le lt).trans_lt newer)

section Scan
variable {σ : Type w} (key) (slots) (latest : σ → κ) (take : σ → α → σ)

def scan (s : σ) (indices : List Nat) : σ :=
  indices.foldl (fun s j => if latest s < key (slots j) then take s (slots j) else s) s

variable {key latest take slots} {s : σ}

/-- Nothing older is taken over. -/
theorem scan_of_le {indices : List Nat} (le : ∀ j ∈ indices, key (slots j) ≤ latest s) :
    scan key slots latest take s indices = s := by
  induction indices with
  | nil => rfl
  | cons j indices ih =>
      have first : ¬ latest s < key (slots j) := not_lt.mpr (le j List.mem_cons_self)
      rw [scan, List.foldl_cons, if_neg first]
      exact ih (fun i mem => le i (List.mem_cons_of_mem _ mem))

theorem scan_eq_take (latest_take : ∀ s a, latest (take s a) = key a)
    (take_take : ∀ s a b, take (take s a) b = take s b) (newest : Newest key count slots a)
    (lt : latest s < key a) :
    scan key slots latest take s (List.range count) = take s a := by
  have le {j : Nat} : j ∈ List.range count → key (slots j) ≤ key a :=
    fun mem => newest.le (List.mem_range.mp mem)
  obtain ⟨k, hk, same, older⟩ := newest
  have older {j : Nat} (mem : j ∈ List.range count) : j ≠ k → key (slots j) < key a :=
    older j (List.mem_range.mp mem)
  have mem_k : k ∈ List.range count := List.mem_range.mpr hk
  generalize List.range count = indices at le older mem_k
  induction indices generalizing s with
  | nil => cases mem_k
  | cons j indices ih =>
      rw [scan, List.foldl_cons]
      by_cases found : j = k
      · rw [found, same, if_pos lt]
        apply scan_of_le
        intro i mem
        rw [latest_take]
        exact le (List.mem_cons_of_mem _ mem)
      · have mem_rest : k ∈ indices := (List.mem_cons.mp mem_k).resolve_left (Ne.symm found)
        have rest {t : σ} (lt : latest t < key a) :
            scan key slots latest take t indices = take t a :=
          ih lt (fun mem => le (List.mem_cons_of_mem _ mem))
            (fun mem => older (List.mem_cons_of_mem _ mem)) mem_rest
        by_cases taken : latest s < key (slots j)
        · rw [if_pos taken]
          have newer := older List.mem_cons_self found
          exact (rest (by rwa [latest_take])).trans (take_take s (slots j) a)
        · rw [if_neg taken]
          exact rest lt

end Scan
end Ring
