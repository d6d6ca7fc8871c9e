import Mathlib.Data.List.Nodup
import Mathlib.Tactic.Common

/-!
Tickets taken from a counter that is read and advanced in two steps.

Every issue advances the counter by one and gives out a value that the counter had at
some earlier reading. `label` names the counter's values in their order; it need not be
injective, so a counter that wraps around is one too.
-/

universe u

/-- The tickets issued, the latest first, of a counter whose values are `label`: none
was ahead of the counter, and where all are distinct none was left out. -/
structure Tickets {α : Type u} (label : Nat → α) (issued : List α) : Prop where
  earlier : ∀ a ∈ issued, ∃ j < issued.length, a = label j
  filled : issued.Nodup → ∀ j < issued.length, label j ∈ issued

namespace Tickets
variable {α : Type u} {label : Nat → α} {issued : List α}

theorem nil : Tickets label [] :=
  ⟨fun _ h => absurd h List.not_mem_nil, fun _ _ h => absurd h (Nat.not_lt_zero _)⟩

theorem mem_iff (h : Tickets label issued) (nodup : issued.Nodup) {a : α} :
    a ∈ issued ↔ ∃ j < issued.length, a = label j := by
  constructor
  · exact h.earlier a
  · rintro ⟨j, hj, rfl⟩
    exact h.filled nodup j hj

/-- Of the readings so far only the latest can be a new ticket. -/
theorem eq_of_fresh (h : Tickets label issued) (nodup : issued.Nodup) {j : Nat}
    (hj : j ≤ issued.length) (fresh : label j ∉ issued) : j = issued.length := by
  by_contra hne
  exact fresh (h.filled nodup j (by omega))

theorem cons (h : Tickets label issued) {j : Nat} (hj : j ≤ issued.length) :
    Tickets label (label j :: issued) := by
  constructor
  case earlier =>
    intro a ha
    obtain rfl | ha := List.mem_cons.mp ha
    · exact ⟨j, Nat.lt_succ_of_le hj, rfl⟩
    · obtain ⟨i, hi, rfl⟩ := h.earlier a ha
      exact ⟨i, Nat.lt_succ_of_lt hi, rfl⟩
  case filled =>
    intro nodup i hi
    obtain ⟨fresh, before⟩ := List.nodup_cons.mp nodup
    obtain rfl := h.eq_of_fresh before hj fresh
    obtain hlt | rfl := Nat.lt_succ_iff_lt_or_eq.mp hi
    · exact List.mem_cons_of_mem _ (h.filled before i hlt)
    · exact List.mem_cons_self

end Tickets
