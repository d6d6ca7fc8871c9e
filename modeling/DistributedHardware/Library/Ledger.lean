import Mathlib.Data.Finset.Card
import Mathlib.Tactic.Common

/-!
A ledger of resources that are acquired by holders and released again.

A release of a resource its holder does not have is recorded as stray: it releases
somebody else's, or nothing. Nothing here depends on what holders and resources are.
-/

universe u v

/-- What each holder has acquired and not released, and whether a release was stray. -/
structure Ledger (H : Type u) (R : Type v) where
  live : H → Finset R := fun _ => ∅
  stray : Bool := false

namespace Ledger
variable {H : Type u} {R : Type v} [DecidableEq R]

def acquire [DecidableEq H] (l : Ledger H R) (h : H) (r : R) : Ledger H R :=
  { l with live := fun k => if k = h then insert r (l.live k) else l.live k }

def release (l : Ledger H R) (h : H) (r : R) : Ledger H R where
  live := fun k => (l.live k).erase r
  stray := l.stray || r ∉ l.live h

/-- Nothing was released that was not held, and no holder has two resources. -/
structure Linear (l : Ledger H R) : Prop where
  stray : l.stray = false
  atMostOne : ∀ h, (l.live h).card ≤ 1

section Release
variable (l : Ledger H R) (h k : H) (r : R)

@[simp] theorem live_release : (l.release h r).live k = (l.live k).erase r := rfl

theorem stray_release : (l.release h r).stray = false ↔ l.stray = false ∧ r ∈ l.live h := by
  simp [release]

variable {l} {h} {r}

theorem linear_release_iff (linear : l.Linear) : (l.release h r).Linear ↔ r ∈ l.live h := by
  constructor
  · intro after
    exact ((stray_release l h r).mp after.stray).2
  · intro held
    exact ⟨(stray_release l h r).mpr ⟨linear.stray, held⟩,
      fun k => (Finset.card_erase_le).trans (linear.atMostOne k)⟩

end Release

section Acquire
variable [DecidableEq H] (l : Ledger H R) (h : H) (r : R)

@[simp] theorem live_acquire_self : (l.acquire h r).live h = insert r (l.live h) := if_pos rfl

theorem live_acquire_of_ne {h k : H} (hne : k ≠ h) : (l.acquire h r).live k = l.live k :=
  if_neg hne

variable {l} {h} {r}

/-- Acquiring something fresh keeps the ledger linear where the holder has nothing. -/
theorem linear_acquire_iff (linear : l.Linear) (fresh : r ∉ l.live h) :
    (l.acquire h r).Linear ↔ l.live h = ∅ := by
  constructor
  · intro after
    have := after.atMostOne h
    rw [live_acquire_self, Finset.card_insert_of_notMem fresh] at this
    exact Finset.card_eq_zero.mp (by omega)
  · intro hempty
    refine ⟨linear.stray, fun k => ?_⟩
    by_cases hk : k = h
    · rw [hk, live_acquire_self, hempty]
      simp
    · rw [live_acquire_of_ne l r hk]
      exact linear.atMostOne k

end Acquire
end Ledger
