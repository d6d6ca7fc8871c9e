import Mathlib.Logic.Function.Basic

/-!
Caches in front of a source: `cache` holds copies of what `source` says, and a reader
that finds no copy asks the source. The copies may be few, so dropping one is always
right; a change of the source has to reach the copies of what it changes.
-/

universe u v

namespace ReadThrough
variable {κ : Type u} {ν : Type v}

/-- Every copy is what the source says. -/
def Agrees (cache source : κ → Option ν) : Prop :=
  ∀ k v, cache k = some v → source k = some v

/-- A copy, else what the source says. -/
def read (cache source : κ → Option ν) (k : κ) : Option ν := (cache k).or (source k)

theorem agrees_empty (source : κ → Option ν) : Agrees (fun _ => none) source :=
  fun _ _ h => by cases h

theorem Agrees.read_eq {cache source : κ → Option ν} (h : Agrees cache source) :
    read cache source = source := by
  funext k
  cases hk : cache k with
  | none => simp [read, hk]
  | some v => simp [read, hk, h k v hk]

/-- A copy of its own under each key, or none. -/
theorem Agrees.of_le {cache cache' source : κ → Option ν} (h : Agrees cache source)
    (le : ∀ k v, cache' k = some v → cache k = some v ∨ source k = some v) :
    Agrees cache' source := by
  intro k v hk
  obtain old | fresh := le k v hk
  · exact h k v old
  · exact fresh

/-- The source may change where no copy is, or to what the copy says. -/
theorem Agrees.source {cache source source' : κ → Option ν} (h : Agrees cache source)
    (changed : ∀ k v, cache k = some v → source' k = source k ∨ source' k = some v) :
    Agrees cache source' := by
  intro k v hk
  obtain same | copied := changed k v hk
  · rw [same]
    exact h k v hk
  · exact copied

end ReadThrough
