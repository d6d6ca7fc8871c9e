import Mathlib.Data.List.Infix
import Mathlib.Tactic.Common

/-!
A first-in first-out queue of bounded length that drops its front to make room.

The queue remembers what was offered to it and what was taken from it: whatever is offered,
taken and dropped, what was taken and what is left are in the order in which they came.
-/

universe u v

variable {α : Type u} {β : Type v}

/-- Drops the front until there is room below the bound. -/
def makeRoom (bound : Nat) : List α → List α
  | [] => []
  | a :: queue => if bound ≤ queue.length + 1 then makeRoom bound queue else a :: queue

theorem makeRoom_suffix (bound : Nat) (queue : List α) : makeRoom bound queue <:+ queue := by
  induction queue with
  | nil => exact List.suffix_refl _
  | cons a queue ih =>
      unfold makeRoom
      split
      · exact ih.trans (List.suffix_cons a queue)
      · exact List.suffix_refl _

theorem makeRoom_map (f : α → β) (bound : Nat) (queue : List α) :
    makeRoom bound (queue.map f) = (makeRoom bound queue).map f := by
  induction queue with
  | nil => rfl
  | cons a queue ih =>
      simp only [List.map_cons, makeRoom, List.length_map, ih]
      split <;> rfl

theorem length_makeRoom {bound : Nat} (pos : 0 < bound) (queue : List α) :
    (makeRoom bound queue).length < bound := by
  induction queue with
  | nil => exact pos
  | cons a queue ih =>
      unfold makeRoom
      split
      · exact ih
      · simp only [List.length_cons]
        omega

structure BoundedQueue (α : Type u) where
  queue : List α := []
  offered : List α := []
  taken : List α := []

namespace BoundedQueue

def offer (bound : Nat) (a : α) (q : BoundedQueue α) : BoundedQueue α :=
  { q with queue := makeRoom bound q.queue ++ [a], offered := q.offered ++ [a] }

def take (q : BoundedQueue α) : BoundedQueue α :=
  match q.queue with
  | [] => q
  | a :: rest => { q with queue := rest, taken := q.taken ++ [a] }

def clear (q : BoundedQueue α) : BoundedQueue α := { q with queue := [] }

theorem take_offered (q : BoundedQueue α) : q.take.offered = q.offered := by
  unfold take
  split <;> rfl

/-- Nothing is made up, nothing comes twice or out of order, and the bound is kept. -/
structure Orderly (bound : Nat) (q : BoundedQueue α) : Prop where
  sublist : (q.taken ++ q.queue).Sublist q.offered
  length_le : q.queue.length ≤ bound

namespace Orderly
variable {bound : Nat} {q : BoundedQueue α}

theorem empty : Orderly bound ({} : BoundedQueue α) := ⟨.slnil, Nat.zero_le _⟩

theorem offer (pos : 0 < bound) (h : q.Orderly bound) (a : α) :
    (q.offer bound a).Orderly bound := by
  constructor
  · have kept : (q.taken ++ makeRoom bound q.queue).Sublist (q.taken ++ q.queue) :=
      (makeRoom_suffix bound q.queue).sublist.append_left q.taken
    change (q.taken ++ (makeRoom bound q.queue ++ [a])).Sublist (q.offered ++ [a])
    rw [← List.append_assoc]
    exact (kept.trans h.sublist).append_right [a]
  · have room : (makeRoom bound q.queue).length < bound := length_makeRoom pos q.queue
    change (makeRoom bound q.queue ++ [a]).length ≤ bound
    rw [List.length_append, List.length_singleton]
    exact room

theorem take (h : q.Orderly bound) : q.take.Orderly bound := by
  unfold BoundedQueue.take
  split
  · exact h
  · rename_i a rest same
    have sublist := h.sublist
    have length_le := h.length_le
    rw [same] at sublist length_le
    constructor
    · simpa only [List.append_assoc, List.singleton_append] using sublist
    · exact Nat.le_of_succ_le length_le

theorem clear (h : q.Orderly bound) : q.clear.Orderly bound := by
  constructor
  · have kept : (q.taken ++ []).Sublist (q.taken ++ q.queue) :=
      (List.nil_sublist q.queue).append_left q.taken
    exact kept.trans h.sublist
  · exact Nat.zero_le _

end Orderly
end BoundedQueue
