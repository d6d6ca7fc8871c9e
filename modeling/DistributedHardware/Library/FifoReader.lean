import Mathlib.Data.List.Infix
import Mathlib.Tactic.Common

/-!
A first-in first-out queue with one reader that copies the front before it removes it.

Between the copy and the removal others may append to the queue, drop its front or empty
it. What the reader holds is `hand`, and `out` is the part of it that it has output.
-/

universe u

/-- The input splits at what the reader holds: the output comes from the part before,
what is left in the queue from the part after. -/
def Drawn {α : Type u} (pushed posted queue hand out : List α) : Prop :=
  ∃ before after, pushed = before ++ (hand ++ after) ∧ posted.Sublist (before ++ out) ∧
    queue <:+ hand ++ after

namespace Drawn
variable {α : Type u} {pushed posted queue queue' hand out : List α} {a : α}

theorem nil : Drawn ([] : List α) [] [] [] [] :=
  ⟨[], [], rfl, .slnil, List.suffix_refl _⟩

theorem append (h : Drawn pushed posted queue hand out) :
    Drawn (pushed ++ [a]) posted (queue ++ [a]) hand out := by
  obtain ⟨before, after, rfl, hposted, skipped, hqueue⟩ := h
  refine ⟨before, after ++ [a], by simp only [List.append_assoc], hposted, skipped, ?_⟩
  rw [← List.append_assoc, hqueue, List.append_assoc]

/-- The queue may lose its front, or everything. -/
theorem drop (h : Drawn pushed posted queue hand out) (less : queue' <:+ queue) :
    Drawn pushed posted queue' hand out := by
  obtain ⟨before, after, hpushed, hposted, hqueue⟩ := h
  exact ⟨before, after, hpushed, hposted, less.trans hqueue⟩

theorem take (h : Drawn pushed posted (a :: queue) [] []) :
    Drawn pushed posted (a :: queue) [a] [] := by
  obtain ⟨before, after, rfl, hposted, skipped, rfl⟩ := h
  refine ⟨before ++ skipped, queue, by simp, ?_, List.suffix_refl _⟩
  rw [List.append_nil] at hposted ⊢
  exact hposted.trans (List.sublist_append_left _ _)

theorem output (h : Drawn pushed posted queue [a] []) :
    Drawn pushed (posted ++ [a]) queue [a] [a] := by
  obtain ⟨before, after, hpushed, hposted, hqueue⟩ := h
  rw [List.append_nil] at hposted
  exact ⟨before, after, hpushed, hposted.append_right [a], hqueue⟩

/-- What is not output can be taken again. -/
theorem putBack (h : Drawn pushed posted queue [a] []) : Drawn pushed posted queue [] [] := by
  obtain ⟨before, after, hpushed, hposted, hqueue⟩ := h
  exact ⟨before, [a] ++ after, hpushed, hposted, hqueue⟩

/-- The reader removes what it has output where it still is the front. -/
theorem remove (h : Drawn pushed posted queue [a] [a]) (less : queue' <:+ queue)
    (front : ∀ rest, queue = a :: rest → queue' <:+ rest) :
    Drawn pushed posted queue' [] [] := by
  obtain ⟨before, after, rfl, hposted, hqueue⟩ := h
  refine ⟨before ++ [a], after, by simp, by rwa [List.append_nil], ?_⟩
  obtain heq | hgone := List.suffix_cons_iff.mp hqueue
  · exact front after heq
  · exact less.trans hgone

/-- The output is in the order of the input. -/
theorem sublist (h : Drawn pushed posted queue hand out) (held : out.Sublist hand) :
    posted.Sublist pushed := by
  obtain ⟨before, after, rfl, hposted, -⟩ := h
  have within : out.Sublist (hand ++ after) := held.trans (List.sublist_append_left hand after)
  exact hposted.trans (within.append_left before)

end Drawn
