import Mathlib.Tactic.Common

/-!
Storage of a fixed number of cells.

It is loaded and stored by ranges. An access that leaves the storage is `none`, so an
access that is not touches only what is there, and a store leaves the cells outside its
range.
-/

universe u

abbrev Storage (α : Type u) (n : Nat) := { cells : List α // cells.length = n }

namespace Storage
variable {α : Type u} {n : Nat} (s : Storage α n)

def load (start count : Nat) : Option (List α) :=
  if start + count ≤ n then some ((s.1.drop start).take count) else none

/-- The cells from `start` on are overwritten. -/
def splice (start : Nat) (cells : List α) : List α :=
  s.1.take start ++ cells ++ s.1.drop (start + cells.length)

theorem length_splice {start : Nat} {cells : List α} (h : start + cells.length ≤ n) :
    (s.splice start cells).length = n := by
  simp only [splice, List.length_append, List.length_take, List.length_drop, s.2]
  omega

def store (start : Nat) (cells : List α) : Option (Storage α n) :=
  if h : start + cells.length ≤ n then some ⟨s.splice start cells, s.length_splice h⟩ else none

variable {s}

theorem load_of_le {start count : Nat} (h : start + count ≤ n) :
    s.load start count = some ((s.1.drop start).take count) :=
  if_pos h

theorem store_of_le {start : Nat} {cells : List α} (h : start + cells.length ≤ n) :
    s.store start cells = some ⟨s.splice start cells, s.length_splice h⟩ :=
  dif_pos h

theorem load_zero {count : Nat} (h : count ≤ n) : s.load 0 count = some (s.1.take count) := by
  rw [load_of_le (by omega), List.drop_zero]

theorem splice_zero (cells : List α) : s.splice 0 cells = cells ++ s.1.drop cells.length := by
  simp only [splice, List.take_zero, List.nil_append, Nat.zero_add]

/-- Storing changes nothing exactly if the cells are there already. -/
theorem splice_eq_self_iff {start : Nat} {cells : List α} (h : start + cells.length ≤ n) :
    s.splice start cells = s.1 ↔ (s.1.drop start).take cells.length = cells := by
  have around : s.1 = s.1.take start ++ (s.1.drop start).take cells.length ++
      s.1.drop (start + cells.length) := by
    rw [List.append_assoc, ← List.drop_drop, List.take_append_drop, List.take_append_drop]
  have length : ((s.1.drop start).take cells.length).length = cells.length := by
    rw [List.length_take, List.length_drop, s.2]
    omega
  constructor
  · intro same
    have same := same.trans around
    exact (List.append_cancel_left (List.append_cancel_right same)).symm
  · intro there
    rw [splice, ← there, length, ← around]

end Storage
