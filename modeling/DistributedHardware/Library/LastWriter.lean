import Mathlib.Data.List.Basic
import Mathlib.Tactic.Common

/-!
A register that each of a growing list of writers writes once, in no given order.

The register is meant to end with the value of the writer created last. It will if it
holds that value already or some writer of that value has yet to write.
-/

universe u

/-- `created` has the latest writer first. -/
def Settles {ι : Type u} (value : ι → Bool) (created : List ι) (pending : ι → Prop)
    (current : Bool) : Prop :=
  ∀ last ∈ created.head?, current = value last ∨
    ∃ w ∈ created, value w = value last ∧ pending w

/-- A write of `id` comes in its turn: it has the value of the latest writer, or another
writer of that value has yet to write. -/
def InTurn {ι : Type u} (value : ι → Bool) (created : List ι) (pending : ι → Prop)
    (id : ι) : Prop :=
  ∀ last ∈ created.head?, value id = value last ∨
    ∃ w ∈ created, w ≠ id ∧ value w = value last ∧ pending w

instance {ι : Type u} [DecidableEq ι] (value : ι → Bool) (created : List ι) (pending : ι → Prop)
    [DecidablePred pending] (id : ι) : Decidable (InTurn value created pending id) :=
  inferInstanceAs (Decidable (∀ last ∈ created.head?, value id = value last ∨
    ∃ w ∈ created, w ≠ id ∧ value w = value last ∧ pending w))

namespace Settles
variable {ι : Type u} {value value' : ι → Bool} {created news : List ι}
  {pending pending' : ι → Prop} {current : Bool} {id : ι}

theorem nil : Settles value [] pending current := nofun

theorem keep (h : Settles value created pending current)
    (same : ∀ w ∈ created, value' w = value w) (still : ∀ w ∈ created, pending w → pending' w) :
    Settles value' created pending' current := by
  intro last hlast
  have value_last := same last (List.mem_of_mem_head? hlast)
  obtain holds | ⟨w, hw, hvalue, hpending⟩ := h last hlast
  · exact .inl (holds.trans value_last.symm)
  · exact .inr ⟨w, hw, (same w hw).trans (hvalue.trans value_last.symm), still w hw hpending⟩

/-- A new writer has yet to write. -/
theorem create (h : Settles value created pending current) (fresh : ∀ w ∈ news, pending w) :
    Settles value (news ++ created) pending current := by
  cases news with
  | nil => exact h
  | cons newest older =>
      rintro last ⟨⟩
      exact .inr ⟨newest, List.mem_cons_self, rfl, fresh newest List.mem_cons_self⟩

/-- The value written is right in the end exactly where the write comes in its turn. -/
theorem write_iff (once : ¬ pending' id)
    (still : ∀ w ∈ created, w ≠ id → (pending' w ↔ pending w)) :
    Settles value created pending' (value id) ↔ InTurn value created pending id := by
  refine forall₂_congr (fun last _ => or_congr_right ?_)
  constructor
  · rintro ⟨w, hw, hvalue, hpending⟩
    have hne : w ≠ id := fun heq => once (heq ▸ hpending)
    exact ⟨w, hw, hne, hvalue, (still w hw hne).mp hpending⟩
  · rintro ⟨w, hw, hne, hvalue, hpending⟩
    exact ⟨w, hw, hvalue, (still w hw hne).mpr hpending⟩

/-- Once all have written, the register holds the latest writer's value. -/
theorem settled (h : Settles value created pending current) {last : ι}
    (hlast : last ∈ created.head?) (done : ∀ w ∈ created, ¬ pending w) : current = value last :=
  (h last hlast).resolve_right (fun ⟨w, hw, _, hpending⟩ => done w hw hpending)

end Settles
