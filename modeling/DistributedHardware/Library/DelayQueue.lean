import Mathlib.Data.List.Basic
import Mathlib.Tactic.Common

/-!
A queue of items with due times, handled in order of these times and, where two are due
at once, in the order they came.

An item may come that is due before items of the queue, and then it is handled first.
`settle` is what the handling of all that is queued leads to.
-/

universe u v

structure Timed (ι : Type u) where
  due : Nat
  item : ι

namespace DelayQueue
variable {ι : Type u} {σ : Type v} {e d : Timed ι} {queue : List (Timed ι)}

/-- Puts an item behind all that are due no later. -/
def insert (e : Timed ι) : List (Timed ι) → List (Timed ι)
  | [] => [e]
  | d :: queue => if d.due ≤ e.due then d :: insert e queue else e :: d :: queue

abbrev InOrder (queue : List (Timed ι)) : Prop := queue.Pairwise (fun a b => a.due ≤ b.due)

theorem mem_insert : d ∈ insert e queue ↔ d = e ∨ d ∈ queue := by
  induction queue with
  | nil => simp [insert]
  | cons b queue ih =>
      by_cases h : b.due ≤ e.due
      · rw [insert, if_pos h, List.mem_cons, ih, List.mem_cons, or_left_comm]
      · rw [insert, if_neg h, List.mem_cons]

theorem forall_mem_insert {P : Timed ι → Prop} :
    (∀ d ∈ insert e queue, P d) ↔ P e ∧ ∀ d ∈ queue, P d := by
  simp only [mem_insert, forall_eq_or_imp]

theorem exists_mem_insert {P : Timed ι → Prop} :
    (∃ d ∈ insert e queue, P d) ↔ P e ∨ ∃ d ∈ queue, P d := by
  simp only [mem_insert, exists_eq_or_imp]

theorem InOrder.insert (h : InOrder queue) : InOrder (insert e queue) := by
  induction queue with
  | nil => exact List.pairwise_singleton _ e
  | cons b queue ih =>
      obtain ⟨first, rest⟩ := List.pairwise_cons.mp h
      by_cases le : b.due ≤ e.due
      · rw [DelayQueue.insert, if_pos le]
        apply List.pairwise_cons.mpr
        exact ⟨forall_mem_insert.mpr ⟨le, first⟩, ih rest⟩
      · rw [DelayQueue.insert, if_neg le]
        apply List.pairwise_cons.mpr
        have earlier : e.due ≤ b.due := Nat.le_of_not_le le
        refine ⟨List.forall_mem_cons.mpr ⟨earlier, ?_⟩, h⟩
        exact fun d mem => Nat.le_trans earlier (first d mem)

section Settle
variable (handle : σ → ι → σ)

/-- The state once all of the queue is handled. -/
def settle (s : σ) (queue : List (Timed ι)) : σ := queue.foldl (fun s e => handle s e.item) s

variable {handle} {s t : σ}

/-- An item that is due last is handled last. -/
theorem settle_insert_last (last : ∀ d ∈ queue, d.due ≤ e.due) :
    settle handle s (insert e queue) = handle (settle handle s queue) e.item := by
  induction queue generalizing s with
  | nil => rfl
  | cons b queue ih =>
      rw [insert, if_pos (last b List.mem_cons_self)]
      exact ih (fun d mem => last d (List.mem_cons_of_mem _ mem))

/-- An item whose handling does nothing may come at any time. -/
theorem settle_insert_idle (idle : ∀ s, handle s e.item = s) :
    settle handle s (insert e queue) = settle handle s queue := by
  induction queue generalizing s with
  | nil => exact idle s
  | cons b queue ih =>
      by_cases h : b.due ≤ e.due
      · rw [insert, if_pos h]
        exact ih
      · rw [insert, if_neg h, settle, List.foldl_cons, idle]
        rfl

/-- Where what is due later leads to one state whatever it starts from, an item that is
handled before it does not show. -/
theorem settle_insert_overtaken (order : InOrder queue)
    (later : ∀ d ∈ queue, e.due < d.due → ∀ s, handle s d.item = t)
    (some_later : ∃ d ∈ queue, e.due < d.due) :
    settle handle s (insert e queue) = t ∧ settle handle s queue = t := by
  have constant {q : List (Timed ι)} (ne : q ≠ []) (all : ∀ d ∈ q, ∀ s, handle s d.item = t)
      (s : σ) : settle handle s q = t := by
    rw [← List.dropLast_append_getLast ne, settle, List.foldl_append]
    exact all _ (List.getLast_mem ne) _
  induction queue generalizing s with
  | nil =>
      obtain ⟨d, mem, -⟩ := some_later
      cases mem
  | cons b queue ih =>
      obtain ⟨first, rest⟩ := List.pairwise_cons.mp order
      by_cases h : b.due ≤ e.due
      · rw [insert, if_pos h]
        apply ih rest (fun d mem => later d (List.mem_cons_of_mem _ mem))
        obtain ⟨d, mem, lt⟩ := some_later
        cases List.mem_cons.mp mem with
        | inl same => rw [same] at lt; omega
        | inr mem => exact ⟨d, mem, lt⟩
      · rw [insert, if_neg h]
        have lt : e.due < b.due := Nat.lt_of_not_le h
        have due : ∀ d ∈ b :: queue, e.due < d.due :=
          List.forall_mem_cons.mpr ⟨lt, fun d mem => Nat.lt_of_lt_of_le lt (first d mem)⟩
        have all : ∀ d ∈ b :: queue, ∀ s, handle s d.item = t := fun d mem =>
          later d mem (due d mem)
        exact ⟨constant (List.cons_ne_nil _ _) all _, constant (List.cons_ne_nil _ _) all _⟩

end Settle
end DelayQueue
